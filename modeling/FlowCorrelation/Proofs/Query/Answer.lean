import FlowCorrelation.Proofs.Context.Assembly
import FlowCorrelation.Proofs.FlowId.Repair
import FlowCorrelation.Proofs.FlowStore.Retrieval
import FlowCorrelation.Proofs.Query.Cache
import FlowCorrelation.Query.Engine

namespace FlowCorrelation

def Gathered.answer? (x : Gathered) (id : FlowId) (budgetMs : Nat) (anomaly : AnomalySettings) :
    Option (Except QueryFault (Option FlowContext)) :=
  match x.spans with
  | .late => some (.error (.timeout budgetMs))
  | .failed f => some (.error (.storage f))
  | .arrived spans =>
    let logs := x.logs.degrade .logs budgetMs
    let metrics := x.metrics.degrade .metrics budgetMs
    if spans.isEmpty && logs.records.isEmpty then some (.ok none)
    else (FlowContext.assemble? id.text ⟨spans, logs.records, metrics.records⟩ anomaly .epoch).map
      (fun c ↦ .ok (some
        ((logs.warning.toList ++ metrics.warning.toList).foldl FlowContext.addWarning c)))

namespace QueryEngine

variable {e e' : QueryEngine} {g : Gateway} {now : Nat} {raw : String} {id : FlowId}

def SameRules (e e' : QueryEngine) : Prop :=
  e.head = e'.head ∧ e.timeoutMs = e'.timeoutMs ∧ e.anomaly = e'.anomaly

def uncached (e : QueryEngine) (g : Gateway) (id : FlowId) :
    Option (Except QueryFault (Option FlowContext)) :=
  (g.gather id e.timeoutMs).answer? id e.timeoutMs e.anomaly

theorem SameRules.trans {e'' : QueryEngine} (h : e.SameRules e') (h' : e'.SameRules e'') :
    e.SameRules e'' :=
  ⟨h.1.trans h'.1, h.2.1.trans h'.2.1, h.2.2.trans h'.2.2⟩

theorem SameRules.uncached_eq (h : e.SameRules e') (g : Gateway) (id : FlowId) :
    e.uncached g id = e'.uncached g id := by
  rw [uncached, uncached, h.2.1, h.2.2]

def Caches (kept : TimedCache FlowContext) (now : Nat) (key : String)
    (r : QueryAnswer (Option FlowContext)) : Prop :=
  ((∀ c, r.result ≠ some (.ok (some c))) ∧ r.engine.cache = kept) ∨
    ∃ c, r.result = some (.ok (some c)) ∧ r.engine.cache = kept.insert (now + r.elapsedMs) key c

theorem build_cases (e : QueryEngine) (now : Nat) (id : FlowId) {spans : List SpanRecord}
    {x : Gathered} (hx : x.spans = .arrived spans) :
    let r := e.build now id spans x
    r.result = x.answer? id e.timeoutMs e.anomaly ∧ r.engine.SameRules e ∧
      Caches e.cache now (id.identity e.head) r := by
  intro r
  simp only [r, build, count, Gathered.answer?, hx]
  split
  · exact ⟨rfl, ⟨rfl, rfl, rfl⟩, Or.inl ⟨by simp, rfl⟩⟩
  · split
    · rename_i hnone
      simp only [hnone, Option.map_none]
      exact ⟨trivial, ⟨rfl, rfl, rfl⟩, Or.inl ⟨by simp, rfl⟩⟩
    · rename_i c hc
      simp only [hc, Option.map_some]
      exact ⟨trivial, ⟨rfl, rfl, rfl⟩, Or.inr ⟨_, rfl, rfl⟩⟩

/-- Fetching answers from what arrives, and a context that is found goes into the cache. -/
theorem fetchContext_cases (e : QueryEngine) (g : Gateway) (now : Nat) (id : FlowId) :
    let r := e.fetchContext g now id
    r.result = e.uncached g id ∧ r.engine.SameRules e ∧
      Caches e.cache now (id.identity e.head) r := by
  intro r
  cases hspans : (g.gather id e.timeoutMs).spans with
  | arrived spans =>
    have hr : r = e.build now id spans (g.gather id e.timeoutMs) := by
      simp only [r, fetchContext, hspans]
    rw [hr]
    exact e.build_cases now id hspans
  | late =>
    simp only [r, fetchContext, uncached, Gathered.answer?, hspans]
    exact ⟨trivial, ⟨rfl, rfl, rfl⟩, Or.inl ⟨by simp, rfl⟩⟩
  | failed f =>
    simp only [r, fetchContext, uncached, Gathered.answer?, hspans]
    exact ⟨trivial, ⟨rfl, rfl, rfl⟩, Or.inl ⟨by simp, rfl⟩⟩

/-- What a query can do: turn the text down, serve what is cached, or ask the gateway, and then
nothing stays in the cache under the key but a context that was found. -/
theorem context_cases (e : QueryEngine) (g : Gateway) (now : Nat) (raw : String) :
    let r := e.context g now raw
    r.engine.SameRules e ∧
    ((∃ d, acceptId raw .outside = .error d ∧ r.result = some (.error (.invalid d)) ∧
        r.engine.cache = e.cache) ∨
      ∃ a, acceptId raw .outside = .ok a ∧
        ((∃ c, e.cache.peek? now (a.id.identity e.head) = some c ∧
            r.result = some (.ok (some c)) ∧ r.engine.cache.entries = e.cache.entries) ∨
          (e.cache.peek? now (a.id.identity e.head) = none ∧ r.result = e.uncached g a.id ∧
            Caches (e.cache.get now (a.id.identity e.head)).1 now (a.id.identity e.head) r))) := by
  intro r
  simp only [r, context, accept]
  cases ha : acceptId raw .outside with
  | error d => exact ⟨⟨rfl, rfl, rfl⟩, Or.inl ⟨d, rfl, rfl, rfl⟩⟩
  | ok a =>
    simp only [count]
    cases hpeek : e.cache.peek? now (a.id.identity e.head) with
    | some c =>
      simp only [TimedCache.get_of_hit hpeek]
      exact ⟨⟨rfl, rfl, rfl⟩, Or.inr ⟨a, rfl, Or.inl ⟨c, hpeek, rfl, trivial⟩⟩⟩
    | none =>
      simp only [TimedCache.get_of_miss hpeek]
      obtain ⟨hresult, hrules, hcache⟩ := fetchContext_cases _ g now a.id
      refine ⟨hrules, Or.inr ⟨a, rfl, Or.inr ⟨hpeek, hresult, ?_⟩⟩⟩
      rw [TimedCache.get_of_miss hpeek]
      exact hcache

theorem context_of_error {d : IdDefect} (h : acceptId raw .outside = .error d) :
    (e.context g now raw).result = some (.error (.invalid d)) := by
  obtain ⟨-, ⟨d', hd, hresult, -⟩ | ⟨a, ha, -⟩⟩ := e.context_cases g now raw
  · obtain rfl : d' = d := Except.error.inj (hd.symm.trans h)
    exact hresult
  · cases ha.symm.trans h

theorem context_of_hit {a : AcceptedId} {c : FlowContext} (h : acceptId raw .outside = .ok a)
    (hc : e.cache.peek? now (a.id.identity e.head) = some c) :
    (e.context g now raw).result = some (.ok (some c)) := by
  obtain ⟨-, ⟨d, hd, -⟩ | ⟨a', ha', hanswer⟩⟩ := e.context_cases g now raw
  · cases hd.symm.trans h
  obtain rfl : a' = a := Except.ok.inj (ha'.symm.trans h)
  rcases hanswer with ⟨c', hc', hresult, -⟩ | ⟨hmiss, -⟩
  · obtain rfl : c' = c := Option.some.inj (hc'.symm.trans hc)
    exact hresult
  · cases hmiss.symm.trans hc

theorem context_spec_of_miss {a : AcceptedId} (h : acceptId raw .outside = .ok a)
    (hmiss : e.cache.peek? now (a.id.identity e.head) = none) :
    let r := e.context g now raw
    r.result = e.uncached g a.id ∧ r.engine.SameRules e ∧
      Caches (e.cache.get now (a.id.identity e.head)).1 now (a.id.identity e.head) r := by
  intro r
  obtain ⟨hrules, ⟨d, hd, -⟩ | ⟨a', ha', hanswer⟩⟩ := e.context_cases g now raw
  · cases hd.symm.trans h
  obtain rfl : a' = a := Except.ok.inj (ha'.symm.trans h)
  rcases hanswer with ⟨c, hc, -⟩ | ⟨-, hresult, hcache⟩
  · cases hc.symm.trans hmiss
  · exact ⟨hresult, hrules, hcache⟩

theorem context_of_miss {a : AcceptedId} (h : acceptId raw .outside = .ok a)
    (hmiss : e.cache.peek? now (a.id.identity e.head) = none) :
    (e.context g now raw).result = e.uncached g a.id :=
  (context_spec_of_miss h hmiss).1

theorem uncached_cases (e : QueryEngine) (g : Gateway) (id : FlowId) :
    let logs := ((g.logs id).within e.timeoutMs).degrade .logs e.timeoutMs
    let metrics := ((g.metrics id).within e.timeoutMs).degrade .metrics e.timeoutMs
    ((g.spans id).within e.timeoutMs = .late ∧
        e.uncached g id = some (.error (.timeout e.timeoutMs))) ∨
      (∃ f, (g.spans id).within e.timeoutMs = .failed f ∧
        e.uncached g id = some (.error (.storage f))) ∨
      ((g.spans id).within e.timeoutMs = .arrived [] ∧ logs.records = [] ∧
        e.uncached g id = some (.ok none)) ∨
      ∃ spans, (g.spans id).within e.timeoutMs = .arrived spans ∧
        (spans ≠ [] ∨ logs.records ≠ []) ∧
        e.uncached g id = (FlowContext.assemble? id.text
          ⟨spans, logs.records, metrics.records⟩ e.anomaly .epoch).map (fun c ↦ .ok (some
            ((logs.warning.toList ++ metrics.warning.toList).foldl FlowContext.addWarning c))) := by
  intro logs metrics
  simp only [uncached, Gathered.answer?, Gateway.gather]
  cases hspans : (g.spans id).within e.timeoutMs with
  | late => exact Or.inl ⟨rfl, rfl⟩
  | failed f => exact Or.inr (Or.inl ⟨f, rfl, rfl⟩)
  | arrived spans =>
    refine Or.inr (Or.inr ?_)
    by_cases hempty : spans.isEmpty && logs.records.isEmpty
    · obtain ⟨rfl, hlogs⟩ : spans = [] ∧ logs.records = [] := by simpa using hempty
      exact Or.inl ⟨rfl, hlogs, if_pos hempty⟩
    · have hkept : spans ≠ [] ∨ logs.records ≠ [] := by
        by_contra hnil
        exact hempty (by simpa using hnil)
      exact Or.inr ⟨spans, rfl, hkept, if_neg hempty⟩

theorem uncached_ne_invalid (e : QueryEngine) (g : Gateway) (id : FlowId) (d : IdDefect) :
    e.uncached g id ≠ some (.error (.invalid d)) := by
  intro h
  rcases e.uncached_cases g id with ⟨-, hr⟩ | ⟨f, -, hr⟩ | ⟨-, -, hr⟩ | ⟨spans, -, -, hr⟩
  · cases hr.symm.trans h
  · cases hr.symm.trans h
  · cases hr.symm.trans h
  · obtain ⟨c, -, hc⟩ := Option.map_eq_some_iff.1 (hr.symm.trans h)
    cases hc

theorem id_of_uncached {c : FlowContext} (h : e.uncached g id = some (.ok (some c))) :
    c.id = id.text := by
  rcases e.uncached_cases g id with ⟨-, hr⟩ | ⟨f, -, hr⟩ | ⟨-, -, hr⟩ | ⟨spans, -, -, hr⟩
  · cases hr.symm.trans h
  · cases hr.symm.trans h
  · cases hr.symm.trans h
  · obtain ⟨c', hc', hc⟩ := Option.map_eq_some_iff.1 (hr.symm.trans h)
    obtain rfl := Option.some.inj (Except.ok.inj hc)
    rw [FlowContext.id_foldl_addWarning]
    exact FlowContext.id_of_assemble? hc'

theorem context_eq_invalid_iff {d : IdDefect} :
    (e.context g now raw).result = some (.error (.invalid d)) ↔
      acceptId raw .outside = .error d := by
  refine ⟨fun h ↦ ?_, context_of_error⟩
  obtain ⟨-, ⟨d', hd, hresult, -⟩ | ⟨a, -, ⟨c, -, hresult, -⟩ | ⟨-, hresult, -⟩⟩⟩ :=
    e.context_cases g now raw
  · cases hresult.symm.trans h
    exact hd
  · cases hresult.symm.trans h
  · exact absurd (hresult.symm.trans h) (e.uncached_ne_invalid g _ d)

theorem uncached_eq_notFound_iff : e.uncached g id = some (.ok none) ↔
    (g.spans id).within e.timeoutMs = .arrived [] ∧
      (((g.logs id).within e.timeoutMs).degrade .logs e.timeoutMs).records = [] := by
  rcases e.uncached_cases g id with ⟨hspans, hr⟩ | ⟨f, hspans, hr⟩ | ⟨hspans, hlogs, hr⟩ |
    ⟨spans, hspans, hkept, hr⟩
  · simp [hspans, hr]
  · simp [hspans, hr]
  · exact iff_of_true hr ⟨hspans, hlogs⟩
  · refine iff_of_false (fun h ↦ ?_) (fun ⟨hnil, hlogs⟩ ↦ ?_)
    · obtain ⟨c, -, hc⟩ := Option.map_eq_some_iff.1 (hr.symm.trans h)
      cases hc
    · obtain rfl : spans = [] := Fetched.arrived.inj (hspans.symm.trans hnil)
      rcases hkept with hkept | hkept
      · exact hkept rfl
      · exact hkept hlogs

theorem records_degrade_eq_nil_iff {α : Type} {x : Fetched α} {source : WarningSource} {ms : Nat} :
    (x.degrade source ms).records = [] ↔ x = .arrived [] ∨ (∃ f, x = .failed f) ∨ x = .late := by
  cases x <;> simp [Fetched.degrade]

/-- A query says that nothing was found exactly if the text is taken as an id, nothing fresh is
cached for it, its spans arrive and are none, and its log entries are none or do not arrive. -/
theorem context_eq_notFound_iff (e : QueryEngine) (g : Gateway) (now : Nat) (raw : String) :
    (e.context g now raw).result = some (.ok none) ↔
      ∃ a, acceptId raw .outside = .ok a ∧ e.cache.peek? now (a.id.identity e.head) = none ∧
        (g.spans a.id).within e.timeoutMs = .arrived [] ∧
        ((g.logs a.id).within e.timeoutMs = .arrived [] ∨
          (∃ f, (g.logs a.id).within e.timeoutMs = .failed f) ∨
          (g.logs a.id).within e.timeoutMs = .late) := by
  cases ha : acceptId raw .outside with
  | error d => simp [context_of_error ha]
  | ok a =>
    cases hpeek : e.cache.peek? now (a.id.identity e.head) with
    | some c => simp [context_of_hit ha hpeek, hpeek]
    | none =>
      rw [context_of_miss ha hpeek, uncached_eq_notFound_iff, records_degrade_eq_nil_iff]
      simp [hpeek]

/-- Of a flow with a single log entry nothing is found while the log entries cannot be fetched. -/
theorem notFound_beside_failed_logs :
    let entry : LogEntry :=
      ⟨{ timestamp := ⟨0, 0⟩
         service := "s"
         attributes := Dict.ofList [("correlation_id", "flow-1")] }, .info, "retrying"⟩
    let store : FlowStore := ({} : FlowStore).insert (.log entry)
    let g : Gateway := { store.gateway with logs := fun _ ↦ .ends 0 (.error (.query "no table")) }
    let e : QueryEngine := { timeoutMs := 200, cache := { ttlMs := 300000, capacity := 10 } }
    let id : FlowId := ⟨"flow-1", by decide +kernel⟩
    store.logsOf id = [entry] ∧ (g.logs id).within e.timeoutMs = .failed (.query "no table") ∧
      (e.context g 0 "flow-1").result = some (.ok none) := by
  intro entry store g e id
  have ha : acceptId "flow-1" .outside = .ok ⟨id, none⟩ := by
    simp [acceptId, show FlowId.parse "flow-1" = .ok id from FlowId.parse_text id]
  have hstore : store = ({} : FlowStore).put (identityKey "flow-1" "olly") (.log entry) :=
    FlowStore.insert_of_carriedId (by decide +kernel)
  have hunder : store.logs.under (identityKey "flow-1" "olly") = [entry] := by
    rw [hstore]
    exact (RecordIndex.under_push _ _ _ _).trans (if_pos rfl)
  have hlogs : store.logsOf id = [entry] := by
    have hhead : store.head = "olly" := FlowStore.head_insert _ _
    rw [FlowStore.logsOf, hhead]
    exact (congrArg _ hunder).trans (List.mergeSort_singleton _)
  have hspans : store.spansOf id = [] := by
    rw [FlowStore.spansOf, hstore]
    exact List.mergeSort_nil
  refine ⟨hlogs, rfl, ?_⟩
  rw [context_of_miss ha rfl, uncached_eq_notFound_iff]
  exact ⟨congrArg Fetched.arrived hspans, rfl⟩

end QueryEngine

end FlowCorrelation
