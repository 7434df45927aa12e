import FlowCorrelation.Proofs.Query.Answer

namespace FlowCorrelation

/-- What an engine is asked to do, or how long nothing is asked. -/
inductive QueryCall where
  | context (raw : String)
  | timeline (raw : String)
  | spans (raw : String)
  | logs (raw : String)
  | invalidate (raw : String)
  | wait (ms : Nat)

def found? : Option (Except QueryFault (Option FlowContext)) → Option FlowContext
  | some (.ok c) => c
  | _ => none

theorem found?_eq_some_iff {r : Option (Except QueryFault (Option FlowContext))} {c : FlowContext} :
    found? r = some c ↔ r = some (.ok (some c)) := by
  unfold found?
  split <;> simp_all

namespace QueryEngine

def builds? (e : QueryEngine) (g : Gateway) (now : Nat) (raw : String) :
    Option FlowId :=
  match acceptId raw .outside with
  | .error _ => none
  | .ok a =>
    if (e.cache.peek? now (a.id.identity e.head)).isNone && (found? (e.uncached g a.id)).isSome then
      some a.id
    else none

theorem sameRules_accept (e : QueryEngine) (raw : String) :
    (e.accept raw).1.SameRules e ∧ (e.accept raw).1.cache = e.cache := by
  unfold accept
  split <;> exact ⟨⟨rfl, rfl, rfl⟩, rfl⟩

theorem engine_fetchKind {α : Type} (e : QueryEngine) (fetch : FlowId → Fetch α) (raw : String) :
    (e.fetchKind fetch raw).engine = (e.accept raw).1 := by
  unfold fetchKind
  split <;> simp_all

theorem invalidate_cases (e : QueryEngine) (raw : String) :
    (e.invalidate raw).1.SameRules e ∧ ∀ key x,
      (e.invalidate raw).1.cache.entries.get? key = some x → e.cache.entries.get? key = some x := by
  obtain ⟨hrules, hcache⟩ := sameRules_accept e raw
  unfold invalidate
  split
  · rename_i haccept
    rw [haccept] at hrules hcache
    exact ⟨hrules, fun key x hx ↦ hcache ▸ hx⟩
  · rename_i haccept
    rw [haccept] at hrules hcache
    refine ⟨hrules, fun key x hx ↦ ?_⟩
    simp only at hcache
    exact TimedCache.of_get?_erase (hcache ▸ hx)

end QueryEngine

structure QuerySession where
  engine : QueryEngine
  now : Nat := 0
  /-- The ids for which a context was put together, the latest first. -/
  built : List FlowId := []

namespace QuerySession

variable {s t : QuerySession} {g : Gateway} {e : QueryEngine}

def step (s : QuerySession) (g : Gateway) : QueryCall → QuerySession
  | .context raw =>
    let r := s.engine.context g s.now raw
    ⟨r.engine, s.now + r.elapsedMs, (s.engine.builds? g s.now raw).toList ++ s.built⟩
  | .timeline raw =>
    let r := s.engine.timeline g s.now raw
    ⟨r.engine, s.now + r.elapsedMs, (s.engine.builds? g s.now raw).toList ++ s.built⟩
  | .spans raw =>
    let r := s.engine.spans g raw
    ⟨r.engine, s.now + r.elapsedMs, s.built⟩
  | .logs raw =>
    let r := s.engine.logs g raw
    ⟨r.engine, s.now + r.elapsedMs, s.built⟩
  | .invalidate raw => { s with engine := (s.engine.invalidate raw).1 }
  | .wait ms => { s with now := s.now + ms }

/-- The session after a run of calls, each with what was behind the gateway then. -/
def run (e : QueryEngine) (past : List (Gateway × QueryCall)) : QuerySession :=
  past.foldl (fun s (g, call) ↦ s.step g call) { engine := e }

/-- The answer to a query for a context. -/
def ask (s : QuerySession) (g : Gateway) (raw : String) :
    Option (Except QueryFault (Option FlowContext)) :=
  (s.engine.context g s.now raw).result

/-- What a step can do: nothing is put together and nothing new is cached, or a context of an id is
put together, and nothing else can be under the key of this id. -/
inductive Change (s : QuerySession) (g : Gateway) (t : QuerySession) : Prop where
  | kept (rules : t.engine.SameRules s.engine) (built : t.built = s.built)
      (entries : ∀ key x, t.engine.cache.entries.get? key = some x →
        s.engine.cache.entries.get? key = some x)
  | built (id : FlowId) (c : FlowContext) (rules : t.engine.SameRules s.engine)
      (built : t.built = id :: s.built)
      (found : s.engine.uncached g id = some (.ok (some c)))
      (entries : ∀ key x, t.engine.cache.entries.get? key = some x →
        (key = id.identity s.engine.head ∧ x.value = c) ∨
          (key ≠ id.identity s.engine.head ∧ s.engine.cache.entries.get? key = some x))

theorem Change.sameRules (h : Change s g t) : t.engine.SameRules s.engine := by
  cases h with
  | kept hrules => exact hrules
  | built _ _ hrules => exact hrules

theorem change_context (s : QuerySession) (g : Gateway) (raw : String) :
    Change s g (s.step g (.context raw)) := by
  obtain ⟨hrules, hanswer⟩ := s.engine.context_cases g s.now raw
  rcases hanswer with ⟨d, ha, -, hcache⟩ | ⟨a, ha, ⟨c, hpeek, -, hentries⟩ | ⟨hpeek, hresult, hcache⟩⟩
  · apply Change.kept hrules
    · simp [step, QueryEngine.builds?, ha]
    · intro key x hx
      exact hcache ▸ hx
  · apply Change.kept hrules
    · simp [step, QueryEngine.builds?, ha, hpeek]
    · intro key x hx
      exact hentries ▸ hx
  rw [TimedCache.get_of_miss hpeek] at hcache
  rcases hcache with ⟨hnone, hcache⟩ | ⟨c, hc, hcache⟩
  · have hfound : found? (s.engine.uncached g a.id) = none := by
      apply Option.eq_none_iff_forall_ne_some.2
      intro c hc
      exact hnone c (hresult.trans (found?_eq_some_iff.1 hc))
    apply Change.kept hrules
    · simp [step, QueryEngine.builds?, ha, hfound]
    · intro key x hx
      rw [step, hcache] at hx
      exact TimedCache.of_get?_erase hx
  · have hfound : s.engine.uncached g a.id = some (.ok (some c)) := hresult.symm.trans hc
    apply Change.built a.id c hrules
    · simp [step, QueryEngine.builds?, ha, hpeek, found?_eq_some_iff.2 hfound]
    · exact hfound
    · intro key x hx
      rw [step, hcache] at hx
      rcases TimedCache.of_get?_insert hx with ⟨rfl, rfl⟩ | hold
      · exact Or.inl ⟨rfl, rfl⟩
      · exact Or.inr ⟨TimedCache.ne_of_get?_erase hold, TimedCache.of_get?_erase hold⟩

theorem change (s : QuerySession) (g : Gateway) (call : QueryCall) :
    Change s g (s.step g call) := by
  have hfetch {α : Type} (fetch : FlowId → Fetch α) (raw : String) (t : QuerySession)
      (ht : t.engine = (s.engine.fetchKind fetch raw).engine) (hbuilt : t.built = s.built) :
      Change s g t := by
    obtain ⟨hrules, hcache⟩ := s.engine.sameRules_accept raw
    rw [← s.engine.engine_fetchKind fetch raw, ← ht] at hrules hcache
    exact .kept hrules hbuilt (fun key x hx ↦ hcache ▸ hx)
  cases call with
  | context raw => exact change_context s g raw
  | timeline raw => exact change_context s g raw
  | spans raw => exact hfetch g.spans raw _ rfl rfl
  | logs raw => exact hfetch g.logs raw _ rfl rfl
  | invalidate raw =>
    obtain ⟨hrules, hentries⟩ := s.engine.invalidate_cases raw
    exact .kept hrules rfl hentries
  | wait ms => exact .kept ⟨rfl, rfl, rfl⟩ rfl (fun _ _ hx ↦ hx)

/-- A run keeps the rules of its engine, and whatever each change keeps. -/
theorem run_induction {P : QuerySession → Prop} {past : List (Gateway × QueryCall)}
    (h : P { engine := e })
    (hstep : ∀ s g t, (∃ call, (g, call) ∈ past) → Change s g t → P s → P t) :
    (run e past).engine.SameRules e ∧ P (run e past) := by
  refine List.foldlRecOn (motive := fun s ↦ s.engine.SameRules e ∧ P s) past _
    ⟨⟨rfl, rfl, rfl⟩, h⟩ ?_
  intro s ⟨hrules, hs⟩ (g, call) hlast
  have hchange := change s g call
  exact ⟨hchange.sameRules.trans hrules, hstep s g _ ⟨call, hlast⟩ hchange hs⟩

theorem get?_ne_some (he : e.cache.entries = ∅) (key : String) (x : CacheEntry FlowContext) :
    e.cache.entries.get? key ≠ some x := by
  rw [he, Dict.get?_empty]
  exact nofun

/-- Whether every context in the cache says that it is of the id for which a context was last put
together under its key. -/
def Traced (s : QuerySession) : Prop :=
  ∀ key x, s.engine.cache.entries.get? key = some x →
    ∃ id, s.built.find? (fun id ↦ id.identity s.engine.head = key) = some id ∧ x.value.id = id.text

theorem Traced.change (hs : s.Traced) (h : Change s g t) : t.Traced := by
  intro key x hx
  cases h with
  | kept hrules hbuilt hentries =>
    rw [hbuilt, hrules.1]
    exact hs key x (hentries key x hx)
  | built id c hrules hbuilt hfound hentries =>
    rw [hbuilt, hrules.1]
    rcases hentries key x hx with ⟨rfl, rfl⟩ | ⟨hne, hold⟩
    · exact ⟨id, by simp, QueryEngine.id_of_uncached hfound⟩
    · obtain ⟨id', hid', htext⟩ := hs key x hold
      exact ⟨id', by simp [hne.symm, hid'], htext⟩

theorem traced_run (he : e.cache.entries = ∅) (past : List (Gateway × QueryCall)) :
    (run e past).engine.SameRules e ∧ (run e past).Traced := by
  apply run_induction
  · intro key x hx
    exact absurd hx (get?_ne_some he key x)
  · intro s g t _ hchange hs
    exact hs.change hchange

/-- A context that is found has the key of the id that is asked. It answers for this id exactly if
nothing fresh was cached, or if this is the id for which a context was last put together under the
key. -/
theorem found_id_eq_iff (e : QueryEngine) (he : e.cache.entries = ∅)
    (past : List (Gateway × QueryCall)) (g : Gateway) (raw : String) (c : FlowContext)
    (hc : (run e past).ask g raw = some (.ok (some c))) :
    ∃ a, acceptId raw .outside = .ok a ∧ identityKey c.id e.head = a.id.identity e.head ∧
      (c.id = a.id.text ↔
        (run e past).engine.cache.peek? (run e past).now (a.id.identity e.head) = none ∨
        (run e past).built.find? (fun id ↦ id.identity e.head = a.id.identity e.head) =
          some a.id) := by
  obtain ⟨⟨hhead, -⟩, htraced⟩ := traced_run he past
  obtain ⟨-, ⟨d, ha, hresult, -⟩ | ⟨a, ha, hanswer⟩⟩ :=
    (run e past).engine.context_cases g (run e past).now raw
  · cases hresult.symm.trans hc
  refine ⟨a, ha, ?_⟩
  rw [hhead] at hanswer
  rcases hanswer with ⟨c', hpeek, hresult, -⟩ | ⟨hmiss, hresult, -⟩
  · obtain rfl : c' = c := by simpa using hresult.symm.trans hc
    obtain ⟨x, hx, -, rfl⟩ := TimedCache.peek?_eq_some_iff.1 hpeek
    obtain ⟨id, hid, htext⟩ := htraced _ _ hx
    rw [hhead] at hid
    have hkey : id.identity e.head = a.id.identity e.head := by
      simpa using List.find?_some hid
    refine ⟨by rw [htext]; exact hkey, ?_⟩
    rw [hpeek, hid, htext, Option.some.injEq]
    refine ⟨fun h ↦ Or.inr (FlowId.ext h), fun h ↦ ?_⟩
    rcases h with hnone | rfl
    · cases hnone
    · rfl
  · have htext : c.id = a.id.text := QueryEngine.id_of_uncached (hresult.symm.trans hc)
    exact ⟨by rw [htext]; rfl, iff_of_true htext (Or.inl hmiss)⟩

/-- What is cached for an id of the same flow is forgotten, and the next context is of the id that
is asked. -/
theorem found_id_eq_after_invalidate :
    let entry : LogEntry :=
      ⟨{ timestamp := ⟨0, 0⟩
         service := "s"
         attributes := Dict.ofList [("correlation_id", "olly-k1-a7b2c4d1")] }, .info, "retrying"⟩
    let g := (({} : FlowStore).insert (.log entry)).gateway
    let e : QueryEngine := { timeoutMs := 200, cache := { ttlMs := 300000, capacity := 10 } }
    let s := run e [(g, .context "olly-k1-a7b2c4d1"), (g, .invalidate "olly-k2-a7b2c4d1"),
      (g, .timeline "olly-k2-a7b2c4d1"), (g, .wait 60000)]
    e.cache.entries = ∅ ∧ ∃ c, s.ask g "olly-k2-a7b2c4d1" = some (.ok (some c)) ∧
      c.id = "olly-k2-a7b2c4d1" ∧ ∃ a, acceptId "olly-k2-a7b2c4d1" .outside = .ok a ∧
        identityKey c.id e.head = a.id.identity e.head ∧
        (c.id = a.id.text ↔ s.engine.cache.peek? s.now (a.id.identity e.head) = none ∨
          s.built.find? (fun id ↦ id.identity e.head = a.id.identity e.head) = some a.id) := by
  intro entry g e s
  have hfound : (found? (s.ask g "olly-k2-a7b2c4d1")).map (·.id) = some "olly-k2-a7b2c4d1" := by
    decide +kernel
  obtain ⟨c, hc, hid⟩ := Option.map_eq_some_iff.1 hfound
  have hanswer := found?_eq_some_iff.1 hc
  exact ⟨rfl, c, hanswer, hid, found_id_eq_iff e rfl _ g _ c hanswer⟩

/-- After a context was put together for one id, another id that differs in the time of its stamp
is answered with a context of the first. -/
theorem found_id_ne_asked :
    let entry : LogEntry :=
      ⟨{ timestamp := ⟨0, 0⟩
         service := "s"
         attributes := Dict.ofList [("correlation_id", "olly-k1-a7b2c4d1")] }, .info, "retrying"⟩
    let g := (({} : FlowStore).insert (.log entry)).gateway
    let e : QueryEngine := { timeoutMs := 200, cache := { ttlMs := 300000, capacity := 10 } }
    let s := run e [(g, .context "olly-k1-a7b2c4d1")]
    ∃ c a, s.ask g "olly-k2-a7b2c4d1" = some (.ok (some c)) ∧
      acceptId "olly-k2-a7b2c4d1" .outside = .ok a ∧ a.id.text = "olly-k2-a7b2c4d1" ∧
      c.id = "olly-k1-a7b2c4d1" ∧ c.id ≠ a.id.text := by
  intro entry g e s
  let asked : FlowId := ⟨"olly-k2-a7b2c4d1", by decide +kernel⟩
  have ha : acceptId "olly-k2-a7b2c4d1" .outside = .ok ⟨asked, none⟩ := by
    simp [acceptId, show FlowId.parse "olly-k2-a7b2c4d1" = .ok asked from FlowId.parse_text asked]
  have hfound : (found? (s.ask g "olly-k2-a7b2c4d1")).map (·.id) = some "olly-k1-a7b2c4d1" := by
    decide +kernel
  obtain ⟨c, hc, hid⟩ := Option.map_eq_some_iff.1 hfound
  refine ⟨c, _, found?_eq_some_iff.1 hc, ha, rfl, hid, ?_⟩
  rw [hid]
  decide

end QuerySession

end FlowCorrelation
