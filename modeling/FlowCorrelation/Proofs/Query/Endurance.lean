import FlowCorrelation.Proofs.Query.CacheHistory
import FlowCorrelation.Proofs.Query.Session

namespace FlowCorrelation

namespace CacheSession

variable {α : Type} {s : CacheSession α} {key : String} {x : CacheEntry α}

/-- Whether a call neither takes back the entry under a key nor evicts it. -/
def Spares (s : CacheSession α) (key : String) : CacheCall α → Prop
  | .insert k _ => s.cache.victim? s.now k ≠ some key
  | .invalidate k => k ≠ key
  | .clear => False
  | .get _ | .wait _ => True

/-- Whether no call of a list takes back or evicts the entry under a key. -/
def SparesAll (key : String) : CacheSession α → List (CacheCall α) → Prop
  | _, [] => True
  | s, call :: calls => s.Spares key call ∧ SparesAll key (s.step call) calls

theorem sparesAll_append (s : CacheSession α) (l l' : List (CacheCall α)) :
    SparesAll key s (l ++ l') ↔ SparesAll key s l ∧ SparesAll key (l.foldl step s) l' := by
  induction l generalizing s with
  | nil => simp [SparesAll]
  | cons call l ih => simp [SparesAll, ih, and_assoc]

theorem now_le_step (s : CacheSession α) (call : CacheCall α) : s.now ≤ (s.step call).now := by
  cases call with
  | wait ms => exact Nat.le_add_right _ _
  | _ => exact le_rfl

theorem now_le_foldl_step (l : List (CacheCall α)) (s : CacheSession α) :
    s.now ≤ (l.foldl step s).now := by
  induction l generalizing s with
  | nil => exact le_rfl
  | cons call l ih => exact (s.now_le_step call).trans (ih _)

theorem isFresh_of_le {c d : TimedCache α} {now later : Nat} (httl : d.ttlMs = c.ttlMs)
    (h : now ≤ later) (hfresh : d.isFresh later x) : c.isFresh now x := by
  simp only [TimedCache.isFresh, decide_eq_true_eq, httl] at hfresh ⊢
  omega

theorem ttlMs_step (s : CacheSession α) (call : CacheCall α) :
    (s.step call).cache.ttlMs = s.cache.ttlMs := by
  cases call with
  | insert k a => exact (s.cache.inserts_insert s.now k a).sameRules.1
  | get k => exact (get_spec s.cache s.now k).1
  | _ => rfl

theorem ttlMs_foldl_step (l : List (CacheCall α)) (s : CacheSession α) :
    (l.foldl step s).cache.ttlMs = s.cache.ttlMs := by
  induction l generalizing s with
  | nil => rfl
  | cons call l ih => exact (ih _).trans (s.ttlMs_step call)

theorem get?_step_of_spared {call : CacheCall α} (hx : s.cache.entries.get? key = some x)
    (hfresh : s.cache.isFresh s.now x) (hspared : s.Spares key call)
    (hnew : ∀ a, call ≠ .insert key a) : (s.step call).cache.entries.get? key = some x := by
  cases call with
  | insert k a =>
    have hk : key ≠ k := fun h ↦ hnew a (h ▸ rfl)
    exact TimedCache.get?_insert_of_spared hk hx hfresh hspared
  | get k => exact (get?_get_iff s.cache s.now k hfresh).2 hx
  | invalidate k =>
    rw [step, TimedCache.invalidate, TimedCache.get?_erase, if_neg (Ne.symm hspared)]
    exact hx
  | clear => exact hspared.elim
  | wait ms => exact hx

/-- An entry that is neither replaced, taken back nor evicted is there until it expires. -/
theorem get?_foldl_step_of_spared (l : List (CacheCall α)) (s : CacheSession α)
    (hx : s.cache.entries.get? key = some x) (hspared : SparesAll key s l)
    (hnew : ∀ a, .insert key a ∉ l) (hfresh : s.cache.isFresh (l.foldl step s).now x) :
    (l.foldl step s).cache.entries.get? key = some x := by
  induction l generalizing s with
  | nil => exact hx
  | cons call l ih =>
    obtain ⟨hcall, hrest⟩ := hspared
    have hnow : s.now ≤ ((call :: l).foldl step s).now := now_le_foldl_step _ s
    have hkept := get?_step_of_spared hx (isFresh_of_le rfl hnow hfresh) hcall
      (fun a h ↦ hnew a (List.mem_cons.2 (Or.inl h.symm)))
    exact ih _ hkept hrest (fun a h ↦ hnew a (List.mem_cons_of_mem _ h))
      (isFresh_of_le (s.ttlMs_step call).symm le_rfl hfresh)

end CacheSession

namespace QueryEngine

variable {e : QueryEngine} {g : Gateway} {now : Nat} {raw : String} {a : AcceptedId}

theorem context_spec_of_error {d : IdDefect} (ha : acceptId raw .outside = .error d) :
    (e.context g now raw).engine.cache = e.cache ∧ (e.context g now raw).elapsedMs = 0 := by
  simp only [context, accept, ha, count, and_self]

theorem context_spec_of_hit {c : FlowContext} (ha : acceptId raw .outside = .ok a)
    (hc : e.cache.peek? now (a.id.identity e.head) = some c) :
    (e.context g now raw).engine.cache = (e.cache.get now (a.id.identity e.head)).1 ∧
      (e.context g now raw).elapsedMs = 0 := by
  have hget := TimedCache.get_of_hit hc
  simp only [context, accept, ha, count, hget, and_self]

end QueryEngine

namespace QuerySession

variable {s : QuerySession} {g : Gateway} {raw key : String} {x : CacheEntry FlowContext}

/-- The cache of an engine in use. -/
def cacheSession (s : QuerySession) : CacheSession FlowContext := ⟨s.engine.cache, s.now⟩

def contextCalls (s : QuerySession) (g : Gateway) (raw : String) : List (CacheCall FlowContext) :=
  match acceptId raw .outside with
  | .error _ => []
  | .ok a =>
    let key := a.id.identity s.engine.head
    let r := s.engine.context g s.now raw
    match s.engine.cache.peek? s.now key, found? r.result with
    | none, some c => [.get key, .wait r.elapsedMs, .insert key c]
    | _, _ => [.get key, .wait r.elapsedMs]

def cacheCalls (s : QuerySession) (g : Gateway) : QueryCall → List (CacheCall FlowContext)
  | .context raw | .timeline raw => s.contextCalls g raw
  | .spans raw => [.wait (s.engine.spans g raw).elapsedMs]
  | .logs raw => [.wait (s.engine.logs g raw).elapsedMs]
  | .invalidate raw =>
    match acceptId raw .outside with
    | .error _ => []
    | .ok a => [.invalidate (a.id.identity s.engine.head)]
  | .wait ms => [.wait ms]

theorem foldl_contextCalls (s : QuerySession) (g : Gateway) (raw : String) :
    (s.contextCalls g raw).foldl CacheSession.step s.cacheSession =
      ⟨(s.engine.context g s.now raw).engine.cache,
        s.now + (s.engine.context g s.now raw).elapsedMs⟩ := by
  unfold contextCalls
  cases ha : acceptId raw .outside with
  | error d =>
    obtain ⟨hcache, helapsed⟩ : (s.engine.context g s.now raw).engine.cache = s.engine.cache ∧
        (s.engine.context g s.now raw).elapsedMs = 0 := QueryEngine.context_spec_of_error ha
    rw [hcache, helapsed]
    rfl
  | ok a =>
    dsimp only
    cases hpeek : s.engine.cache.peek? s.now (a.id.identity s.engine.head) with
    | some c =>
      obtain ⟨hcache, helapsed⟩ := QueryEngine.context_spec_of_hit (g := g) ha hpeek
      rw [hcache, helapsed]
      rfl
    | none =>
      obtain ⟨-, -, ⟨hnone, hcache⟩ | ⟨c, hc, hcache⟩⟩ :=
        QueryEngine.context_spec_of_miss (g := g) ha hpeek
      · have hfound : found? (s.engine.context g s.now raw).result = none := by
          apply Option.eq_none_iff_forall_ne_some.2
          intro c hc
          exact hnone c (found?_eq_some_iff.1 hc)
        rw [hfound, hcache]
        rfl
      · rw [found?_eq_some_iff.2 hc, hcache]
        rfl

theorem foldl_cacheCalls (s : QuerySession) (g : Gateway) (call : QueryCall) :
    (s.cacheCalls g call).foldl CacheSession.step s.cacheSession = (s.step g call).cacheSession := by
  have hfetch {α : Type} (fetch : FlowId → Fetch α) (raw : String) :
      (s.engine.fetchKind fetch raw).engine.cache = s.engine.cache := by
    rw [s.engine.engine_fetchKind fetch raw]
    exact (s.engine.sameRules_accept raw).2
  cases call with
  | context raw => exact s.foldl_contextCalls g raw
  | timeline raw => exact s.foldl_contextCalls g raw
  | spans raw => simp [cacheCalls, CacheSession.step, cacheSession, step, QueryEngine.spans, hfetch]
  | logs raw => simp [cacheCalls, CacheSession.step, cacheSession, step, QueryEngine.logs, hfetch]
  | invalidate raw =>
    simp only [cacheCalls, step, QueryEngine.invalidate, QueryEngine.accept]
    cases acceptId raw .outside <;> rfl
  | wait ms => rfl

/-- The session after more calls, each with what is behind the gateway then. -/
def goOn (s : QuerySession) (more : List (Gateway × QueryCall)) : QuerySession :=
  more.foldl (fun s (g, call) ↦ s.step g call) s

/-- What more calls ask of the cache. -/
def allCacheCalls : QuerySession → List (Gateway × QueryCall) → List (CacheCall FlowContext)
  | _, [] => []
  | s, (g, call) :: more => s.cacheCalls g call ++ allCacheCalls (s.step g call) more

theorem foldl_allCacheCalls (more : List (Gateway × QueryCall)) (s : QuerySession) :
    (s.allCacheCalls more).foldl CacheSession.step s.cacheSession = (s.goOn more).cacheSession := by
  induction more generalizing s with
  | nil => rfl
  | cons gc more ih =>
    obtain ⟨g, call⟩ := gc
    rw [allCacheCalls, List.foldl_append, foldl_cacheCalls, ih]
    rfl

theorem insert_not_mem_cacheCalls (hx : s.engine.cache.entries.get? key = some x)
    (hfresh : s.engine.cache.isFresh s.now x) (g : Gateway) (call : QueryCall) (c : FlowContext) :
    .insert key c ∉ s.cacheCalls g call := by
  have hpeek : s.engine.cache.peek? s.now key = some x.value :=
    TimedCache.peek?_eq_some_iff.2 ⟨x, hx, hfresh, rfl⟩
  have hcontext (raw : String) : .insert key c ∉ s.contextCalls g raw := by
    unfold contextCalls
    split
    · exact List.not_mem_nil
    · dsimp only
      split
      · rename_i hmiss _
        simp only [List.mem_cons, CacheCall.insert.injEq, reduceCtorEq, List.not_mem_nil, false_or,
          or_false, not_and]
        rintro rfl
        cases hmiss.symm.trans hpeek
      · simp
  cases call with
  | context raw => exact hcontext raw
  | timeline raw => exact hcontext raw
  | invalidate raw =>
    rw [cacheCalls]
    split <;> simp
  | _ => simp [cacheCalls]

theorem now_le_goOn (s : QuerySession) (more : List (Gateway × QueryCall)) :
    s.now ≤ (s.goOn more).now := by
  have hle := CacheSession.now_le_foldl_step (s.allCacheCalls more) s.cacheSession
  rwa [foldl_allCacheCalls] at hle

theorem sameRules_goOn (s : QuerySession) (more : List (Gateway × QueryCall)) :
    (s.goOn more).engine.SameRules s.engine := by
  induction more generalizing s with
  | nil => exact ⟨rfl, rfl, rfl⟩
  | cons gc more ih => exact (ih _).trans (s.change gc.1 gc.2).sameRules

theorem ttlMs_goOn (s : QuerySession) (more : List (Gateway × QueryCall)) :
    (s.goOn more).engine.cache.ttlMs = s.engine.cache.ttlMs := by
  have httl := CacheSession.ttlMs_foldl_step (s.allCacheCalls more) s.cacheSession
  rwa [foldl_allCacheCalls] at httl

theorem get?_goOn_of_spared (more : List (Gateway × QueryCall)) (s : QuerySession)
    (hx : s.engine.cache.entries.get? key = some x)
    (hspared : CacheSession.SparesAll key s.cacheSession (s.allCacheCalls more))
    (hfresh : s.engine.cache.isFresh (s.goOn more).now x) :
    (s.goOn more).engine.cache.entries.get? key = some x := by
  induction more generalizing s with
  | nil => exact hx
  | cons gc more ih =>
    obtain ⟨g, call⟩ := gc
    have hstep := s.foldl_cacheCalls g call
    rw [allCacheCalls, CacheSession.sparesAll_append, hstep] at hspared
    have hcalls := CacheSession.get?_foldl_step_of_spared (s.cacheCalls g call) s.cacheSession hx
      hspared.1 (insert_not_mem_cacheCalls hx
        (CacheSession.isFresh_of_le rfl (s.now_le_goOn ((g, call) :: more)) hfresh) g call)
    rw [hstep] at hcalls
    have httl := CacheSession.ttlMs_foldl_step (s.cacheCalls g call) s.cacheSession
    rw [hstep] at httl
    exact ih (s.step g call)
      (hcalls (CacheSession.isFresh_of_le rfl ((s.step g call).now_le_goOn more) hfresh)) hspared.2
      (CacheSession.isFresh_of_le httl.symm le_rfl hfresh)

end QuerySession

end FlowCorrelation
