import FlowCorrelation.Proofs.Query.Endurance

namespace FlowCorrelation

namespace Fetched

variable {α : Type}

/-- What arrived, if anything did. -/
def records : Fetched α → List α
  | .arrived l => l
  | .failed _ | .late => []

def isArrived : Fetched α → Bool
  | .arrived _ => true
  | .failed _ | .late => false

theorem records_degrade (x : Fetched α) (source : WarningSource) (ms : Nat) :
    (x.degrade source ms).records = x.records := by
  cases x <;> rfl

theorem sources_degrade (x : Fetched α) (source : WarningSource) (ms : Nat) :
    (x.degrade source ms).warning.toList.map (·.source) = if x.isArrived then [] else [source] := by
  cases x <;> rfl

end Fetched

theorem FlowContext.foldl_addWarning (l : List PartialDataWarning) (c : FlowContext) :
    l.foldl addWarning c =
      { c with warnings := c.warnings ++ l, isPartial := c.isPartial || !l.isEmpty } := by
  induction l generalizing c with
  | nil => simp
  | cons w l ih => simp [ih, addWarning]

/-- What is put together is complete, and so a context is partial exactly if it has a warning. -/
theorem FlowContext.foldl_addWarning_of_assemble? {id : String} {s : Signals}
    {anomaly : AnomalySettings} {now : Instant} {c : FlowContext}
    (h : assemble? id s anomaly now = some c) (l : List PartialDataWarning) :
    l.foldl addWarning c = { c with warnings := l, isPartial := !l.isEmpty } := by
  obtain ⟨period, -, rfl⟩ := Option.map_eq_some_iff.1 h
  exact foldl_addWarning l _

namespace QueryEngine

variable {e : QueryEngine} {g : Gateway} {id : FlowId} {l : List SpanRecord}

theorem uncached_of_failed {f : StorageFault}
    (hspans : (g.spans id).within e.timeoutMs = .failed f) :
    e.uncached g id = some (.error (.storage f)) := by
  simp only [uncached, Gathered.answer?, Gateway.gather, hspans]

theorem uncached_of_late (hspans : (g.spans id).within e.timeoutMs = .late) :
    e.uncached g id = some (.error (.timeout e.timeoutMs)) := by
  simp only [uncached, Gathered.answer?, Gateway.gather, hspans]

/-- With spans there is a context, unless one of them ends outside the calendar. -/
theorem uncached_of_spans (hspans : (g.spans id).within e.timeoutMs = .arrived l) (hl : l ≠ []) :
    let logs := (g.logs id).within e.timeoutMs
    let metrics := (g.metrics id).within e.timeoutMs
    (e.uncached g id = none ∧ ∃ x ∈ l, x.endTime? = none) ∨
      (∀ x ∈ l, x.endTime? ≠ none) ∧ ∃ c warnings,
        e.uncached g id =
          some (.ok (some { c with warnings := warnings, isPartial := !warnings.isEmpty })) ∧
        (∀ present, FlowContext.assemble? id.text ⟨l, logs.records, metrics.records⟩ e.anomaly
          present = some c) ∧
        warnings.map (·.source) = (if logs.isArrived then [] else [.logs]) ++
          if metrics.isArrived then [] else [.metrics] := by
  intro logs metrics
  rcases e.uncached_cases g id with ⟨hlate, -⟩ | ⟨f, hfailed, -⟩ | ⟨hnil, -⟩ | ⟨l', hl', -, hr⟩
  · cases hlate.symm.trans hspans
  · cases hfailed.symm.trans hspans
  · obtain rfl := Fetched.arrived.inj (hnil.symm.trans hspans)
    exact absurd rfl hl
  obtain rfl : l' = l := Fetched.arrived.inj (hl'.symm.trans hspans)
  simp only [Fetched.records_degrade] at hr
  cases hc : FlowContext.assemble? id.text ⟨l', logs.records, metrics.records⟩ e.anomaly .epoch with
  | none =>
    rw [show FlowContext.assemble? id.text _ _ _ = none from hc] at hr
    exact Or.inl ⟨hr, FlowContext.assemble?_eq_none_iff.1 hc⟩
  | some c =>
    rw [show FlowContext.assemble? id.text _ _ _ = some c from hc, Option.map_some,
      FlowContext.foldl_addWarning_of_assemble? hc] at hr
    refine Or.inr ⟨fun x hx hend ↦ ?_, c, _, hr, fun present ↦ ?_, ?_⟩
    · cases hc.symm.trans (FlowContext.assemble?_eq_none_iff.2 ⟨x, hx, hend⟩)
    · rw [FlowContext.assemble?_congr .epoch (Or.inl hl)]
      exact hc
    · rw [List.map_append, Fetched.sources_degrade, Fetched.sources_degrade]

end QueryEngine

namespace QuerySession

variable {e : QueryEngine} {g : Gateway} {now : Nat} {raw : String} {a : AcceptedId}

/-- A context that was put together is what is answered for its key until its time to live is over,
unless it is invalidated or evicted. -/
theorem ask_of_built {c : FlowContext} (ha : acceptId raw .outside = .ok a)
    (hmiss : e.cache.peek? now (a.id.identity e.head) = none)
    (hfound : (e.context g now raw).result = some (.ok (some c))) (hon : e.cache.isEnabled)
    (built : List FlowId) (more : List (Gateway × QueryCall)) {g' : Gateway} {raw' : String}
    {a' : AcceptedId} (ha' : acceptId raw' .outside = .ok a')
    (hkey : a'.id.identity e.head = a.id.identity e.head) :
    let r := e.context g now raw
    let s : QuerySession := ⟨r.engine, now + r.elapsedMs, built⟩
    (s.goOn more).now - s.now < e.cache.ttlMs →
      CacheSession.SparesAll (a.id.identity e.head) s.cacheSession (s.allCacheCalls more) →
      (s.goOn more).ask g' raw' = some (.ok (some c)) := by
  intro r s hage hspared
  obtain ⟨-, hrules, ⟨hnone, -⟩ | ⟨c', hc', hcache⟩⟩ := QueryEngine.context_spec_of_miss (g := g) ha hmiss
  · exact absurd hfound (hnone c)
  obtain rfl : c' = c := by simpa using hc'.symm.trans hfound
  have hx : s.engine.cache.entries.get? (a.id.identity e.head) = some ⟨c', s.now⟩ := by
    have hinserts := (e.cache.get now (a.id.identity e.head)).1.inserts_insert (now + r.elapsedMs)
      (a.id.identity e.head) c'
    rw [← hcache] at hinserts
    apply hinserts.get?_self
    rw [TimedCache.get_of_miss hmiss]
    exact hon
  have httl : s.engine.cache.ttlMs = e.cache.ttlMs := by
    change r.engine.cache.ttlMs = _
    rw [hcache]
    exact (TimedCache.inserts_insert _ _ _ _).sameRules.1.trans (CacheSession.get_spec _ _ _).1
  have hfresh : s.engine.cache.isFresh (s.goOn more).now ⟨c', s.now⟩ := by
    rw [TimedCache.isFresh, httl]
    exact decide_eq_true hage
  have hhead : (s.goOn more).engine.head = e.head := (s.sameRules_goOn more).1.trans hrules.1
  apply QueryEngine.context_of_hit ha'
  rw [hhead, hkey]
  refine TimedCache.peek?_eq_some_iff.2 ⟨_, get?_goOn_of_spared more s hx hspared hfresh, ?_, rfl⟩
  exact CacheSession.isFresh_of_le (s.ttlMs_goOn more).symm le_rfl hfresh

/-- A text that is no id is answered with its defect. When nothing fresh is cached for a flow, a fault
of the span fetch is the fault of the query, and with spans there is a context unless one of them ends
outside the calendar. What did not arrive is missing from it and leaves its warning, logs before
metrics. Without a context the cache only loses what has expired under the key; a context is served
from now on until its time to live is over or it is invalidated or evicted. -/
theorem context_of_uncached_flow (e : QueryEngine) (g : Gateway) (now : Nat) (raw : String)
    (hmiss : ∀ a, acceptId raw .outside = .ok a → e.cache.peek? now (a.id.identity e.head) = none) :
    let r := e.context g now raw
    (∀ d, acceptId raw .outside = .error d →
      r.result = some (.error (.invalid d)) ∧ r.engine.cache = e.cache) ∧
    ∀ a, acceptId raw .outside = .ok a →
      let key := a.id.identity e.head
      let spans := (g.spans a.id).within e.timeoutMs
      let logs := (g.logs a.id).within e.timeoutMs
      let metrics := (g.metrics a.id).within e.timeoutMs
      (∀ f, spans = .failed f → r.result = some (.error (.storage f))) ∧
      (spans = .late → r.result = some (.error (.timeout e.timeoutMs))) ∧
      (∀ l, spans = .arrived l → l ≠ [] →
        (r.result = none ↔ ∃ x ∈ l, x.endTime? = none) ∧
        (r.result = none ∨ ∃ c₀ c, r.result = some (.ok (some c)) ∧
          (∀ present, FlowContext.assemble? a.id.text ⟨l, logs.records, metrics.records⟩ e.anomaly
            present = some c₀) ∧
          c = { c₀ with warnings := c.warnings, isPartial := c.isPartial } ∧
          c.warnings.map (·.source) = (if logs.isArrived then [] else [.logs]) ++
            (if metrics.isArrived then [] else [.metrics]) ∧
          (c.isPartial ↔ c.warnings ≠ []))) ∧
      ((∀ c, r.result ≠ some (.ok (some c))) →
        (∀ k, r.engine.cache.entries.get? k = if k = key then none else e.cache.entries.get? k) ∧
        ∀ x, e.cache.entries.get? key = some x → ¬ e.cache.isFresh now x) ∧
      ∀ c, r.result = some (.ok (some c)) → e.cache.isEnabled →
        ∀ (built : List FlowId) (more : List (Gateway × QueryCall)) (g' : Gateway) (raw' : String)
          (a' : AcceptedId), acceptId raw' .outside = .ok a' → a'.id.identity e.head = key →
        let s : QuerySession := ⟨r.engine, now + r.elapsedMs, built⟩
        (s.goOn more).now - s.now < e.cache.ttlMs →
          CacheSession.SparesAll key s.cacheSession (s.allCacheCalls more) →
          (s.goOn more).ask g' raw' = some (.ok (some c)) := by
  intro r
  refine ⟨fun d hd ↦ ⟨QueryEngine.context_of_error hd, (QueryEngine.context_spec_of_error hd).1⟩,
    fun a ha ↦ ?_⟩
  intro key spans logs metrics
  have hmiss : e.cache.peek? now key = none := hmiss a ha
  have hresult : r.result = e.uncached g a.id := QueryEngine.context_of_miss ha hmiss
  refine ⟨fun f hf ↦ ?_, fun hlate ↦ ?_, fun l hl hnil ↦ ?_, fun hnone ↦ ⟨fun k ↦ ?_, fun x hx hfresh ↦ ?_⟩,
    fun c hfound hon built more g' raw' a' ha' hkey ↦
      ask_of_built ha hmiss hfound hon built more ha' hkey⟩
  · exact hresult.trans (QueryEngine.uncached_of_failed hf)
  · exact hresult.trans (QueryEngine.uncached_of_late hlate)
  · rw [hresult]
    rcases QueryEngine.uncached_of_spans hl hnil with ⟨hr, hend⟩ | ⟨hends, c₀, warnings, hr, hc₀, hw⟩
    · exact ⟨iff_of_true hr hend, Or.inl hr⟩
    · rw [hr]
      refine ⟨iff_of_false nofun (fun ⟨x, hx, hend⟩ ↦ hends x hx hend), Or.inr ⟨c₀, _, rfl, hc₀, rfl, hw, ?_⟩⟩
      simp
  · obtain ⟨-, -, ⟨-, hcache⟩ | ⟨c, hc, -⟩⟩ := QueryEngine.context_spec_of_miss (g := g) ha hmiss
    · rw [hcache, TimedCache.get_of_miss hmiss, TimedCache.get?_erase]
    · exact absurd hc (hnone c)
  · rw [TimedCache.peek?_eq_some_iff.2 ⟨x, hx, hfresh, rfl⟩] at hmiss
    cases hmiss

/-- A flow whose log entries and metric points do not arrive is answered with two warnings, and is so
again from the cache while its spans cannot be fetched. -/
theorem context_of_uncached_flow_degraded :
    let span : SpanRecord := { timestamp := ⟨0, 0⟩, service := "s", name := "n", durationMs := 10 }
    let g : Gateway :=
      { name := "scripted"
        spans := fun _ ↦ .ends 100 (.ok [span])
        logs := fun _ ↦ .ends 150 (.error (.query "no table"))
        metrics := fun _ ↦ .stalls }
    let broken : Gateway := { g with spans := fun _ ↦ .ends 0 (.error (.unavailable "down")) }
    let e : QueryEngine := { timeoutMs := 200, cache := { ttlMs := 300000, capacity := 10 } }
    let s : QuerySession := ⟨(e.context g 0 "flow-1").engine, 0 + (e.context g 0 "flow-1").elapsedMs, []⟩
    ∃ c, (e.context g 0 "flow-1").result = some (.ok (some c)) ∧
      c.warnings.map (·.source) = [.logs, .metrics] ∧ c.isPartial ∧
      (s.goOn [(broken, .wait 299999)]).ask broken "flow-1" = some (.ok (some c)) := by
  intro span g broken e s
  let id : FlowId := ⟨"flow-1", by decide +kernel⟩
  have ha : acceptId "flow-1" .outside = .ok ⟨id, none⟩ := by
    simp [acceptId, show FlowId.parse "flow-1" = .ok id from FlowId.parse_text id]
  obtain ⟨-, hflow⟩ := context_of_uncached_flow e g 0 "flow-1" (fun a _ ↦ rfl)
  obtain ⟨-, -, hspans, -, hserved⟩ := hflow ⟨id, none⟩ ha
  obtain ⟨hend, hnone | ⟨-, c, hc, -, -, hwarnings, hpartial⟩⟩ := hspans [span] rfl (by simp)
  · obtain ⟨x, hx, hx'⟩ := hend.1 hnone
    rw [List.mem_singleton.1 hx] at hx'
    exact absurd hx' (by decide +kernel)
  have hsources : c.warnings.map (·.source) = [.logs, .metrics] := hwarnings
  refine ⟨c, hc, hsources, hpartial.2 (fun h ↦ by simp [h] at hsources), ?_⟩
  have hage : (s.goOn [(broken, .wait 299999)]).now - s.now < e.cache.ttlMs :=
    (Nat.add_sub_cancel_left _ _).trans_lt (by decide)
  exact hserved c hc rfl [] _ broken "flow-1" ⟨id, none⟩ ha rfl hage ⟨trivial, trivial⟩

/-- A flow with a single span that takes longer than the calendar has no context. -/
theorem no_context_of_endless_span :
    let span : SpanRecord :=
      { timestamp := ⟨0, 0⟩, service := "s", name := "n", durationMs := 10000000000000000
        attributes := Dict.ofList [("correlation_id", "flow-1")] }
    let store : FlowStore := ({} : FlowStore).insert (.span span)
    let e : QueryEngine := { timeoutMs := 200, cache := { ttlMs := 300000, capacity := 10 } }
    ∃ a, acceptId "flow-1" .outside = .ok a ∧
      (store.gateway.spans a.id).within e.timeoutMs = .arrived [span] ∧
      (e.context store.gateway 0 "flow-1").result = none := by
  intro span store e
  let id : FlowId := ⟨"flow-1", by decide +kernel⟩
  have ha : acceptId "flow-1" .outside = .ok ⟨id, none⟩ := by
    simp [acceptId, show FlowId.parse "flow-1" = .ok id from FlowId.parse_text id]
  have hstore : store = ({} : FlowStore).put (identityKey "flow-1" "olly") (.span span) :=
    FlowStore.insert_of_carriedId (by decide +kernel)
  have hunder : store.spans.under (identityKey "flow-1" "olly") = [span] := by
    rw [hstore]
    exact (RecordIndex.under_push _ _ _ _).trans (if_pos rfl)
  have hspans : store.spansOf id = [span] := by
    have hhead : store.head = "olly" := FlowStore.head_insert _ _
    rw [FlowStore.spansOf, hhead]
    exact (congrArg _ hunder).trans (List.mergeSort_singleton _)
  have harrived : (store.gateway.spans id).within e.timeoutMs = .arrived [span] :=
    congrArg Fetched.arrived hspans
  refine ⟨⟨id, none⟩, ha, harrived, ?_⟩
  rw [QueryEngine.context_of_miss ha rfl]
  rcases QueryEngine.uncached_of_spans harrived (by simp) with ⟨hnone, -⟩ | ⟨hends, -⟩
  · exact hnone
  · exact absurd (by decide +kernel) (hends span (by simp))

end QuerySession

end FlowCorrelation
