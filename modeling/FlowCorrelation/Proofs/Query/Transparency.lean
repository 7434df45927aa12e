import FlowCorrelation.Proofs.Query.Session

namespace FlowCorrelation

variable {store : FlowStore} {e : QueryEngine} {s : QuerySession} {id id' : FlowId} {raw : String}
  {a : AcceptedId}

def FlowStore.signalsOf (store : FlowStore) (id : FlowId) : Signals :=
  ⟨store.spansOf id, store.logsOf id, store.metricsOf id⟩

theorem FlowStore.signalsOf_congr (h : id.identity store.head = id'.identity store.head) :
    store.signalsOf id = store.signalsOf id' := by
  simp only [signalsOf, spansOf, logsOf, metricsOf, h]

namespace QueryEngine

theorem uncached_gateway (e : QueryEngine) (store : FlowStore) (id : FlowId) :
    e.uncached store.gateway id =
      if (store.spansOf id).isEmpty && (store.logsOf id).isEmpty then some (.ok none)
      else (FlowContext.assemble? id.text (store.signalsOf id) e.anomaly .epoch).map
        (fun c ↦ .ok (some c)) := rfl

theorem fetchKind_of_error {α : Type} {d : IdDefect} (h : acceptId raw .outside = .error d)
    (fetch : FlowId → Fetch α) : (e.fetchKind fetch raw).result = some (.error (.invalid d)) := by
  simp only [fetchKind, accept, h]

theorem fetchKind_of_ok {α : Type} (h : acceptId raw .outside = .ok a) {fetch : FlowId → Fetch α}
    {l : List α} (hl : fetch a.id = .ends 0 (.ok l)) :
    (e.fetchKind fetch raw).result = some (.ok l) := by
  simp [fetchKind, accept, h, hl, Fetch.within]

end QueryEngine

namespace QuerySession

def Faithful (store : FlowStore) (s : QuerySession) : Prop :=
  ∀ key x, s.engine.cache.entries.get? key = some x →
    ∃ id : FlowId, id.identity s.engine.head = key ∧
      s.engine.uncached store.gateway id = some (.ok (some x.value))

theorem Faithful.change {t : QuerySession} (hs : s.Faithful store)
    (h : Change s store.gateway t) : t.Faithful store := by
  intro key x hx
  have hrules := h.sameRules
  rw [hrules.1]
  simp only [hrules.uncached_eq]
  cases h with
  | kept _ _ hentries => exact hs key x (hentries key x hx)
  | built id c _ _ hfound hentries =>
    rcases hentries key x hx with ⟨rfl, rfl⟩ | ⟨-, hold⟩
    · exact ⟨id, rfl, hfound⟩
    · exact hs key x hold

theorem faithful_run (store : FlowStore) (he : e.cache.entries = ∅) (calls : List QueryCall) :
    let s := run e (calls.map (store.gateway, ·))
    s.engine.SameRules e ∧ s.Faithful store := by
  apply run_induction
  · intro key x hx
    exact absurd hx (get?_ne_some he key x)
  · intro s g t ⟨call, hcall⟩ hchange hs
    obtain ⟨_, -, heq⟩ := List.mem_map.1 hcall
    obtain rfl : store.gateway = g := congrArg Prod.fst heq
    exact hs.change hchange

/-- Whatever is cached, the answer is what is answered without a cache for an id with the same
key. -/
theorem ask_eq_uncached (hs : s.Faithful store) (ha : acceptId raw .outside = .ok a) :
    ∃ id : FlowId, id.identity s.engine.head = a.id.identity s.engine.head ∧
      s.ask store.gateway raw = s.engine.uncached store.gateway id := by
  cases hpeek : s.engine.cache.peek? s.now (a.id.identity s.engine.head) with
  | none => exact ⟨a.id, rfl, QueryEngine.context_of_miss ha hpeek⟩
  | some c =>
    obtain ⟨x, hx, -, rfl⟩ := TimedCache.peek?_eq_some_iff.1 hpeek
    obtain ⟨id, hid, hfound⟩ := hs _ x hx
    have hanswer := QueryEngine.context_of_hit (g := store.gateway) ha hpeek
    exact ⟨id, hid, hanswer.trans hfound.symm⟩

theorem ask_eq_assemble (hs : s.Faithful store) (hhead : s.engine.head = store.head)
    (ha : acceptId raw .outside = .ok a) :
    ∃ text, s.ask store.gateway raw =
      if (store.spansOf a.id).isEmpty && (store.logsOf a.id).isEmpty then some (.ok none)
      else (FlowContext.assemble? a.id.text (store.signalsOf a.id) s.engine.anomaly .epoch).map
        (fun c ↦ .ok (some { c with id := text })) := by
  obtain ⟨id, hid, hanswer⟩ := ask_eq_uncached hs ha
  have hsame : store.signalsOf id = store.signalsOf a.id :=
    FlowStore.signalsOf_congr (by rwa [hhead] at hid)
  have hspans : store.spansOf id = store.spansOf a.id := congrArg Signals.spans hsame
  have hlogs : store.logsOf id = store.logsOf a.id := congrArg Signals.logs hsame
  refine ⟨id.text, ?_⟩
  rw [hanswer, QueryEngine.uncached_gateway, hspans, hlogs, hsame,
    FlowContext.assemble?_rename a.id.text, Option.map_map]
  rfl

/-- Over a store that stays the same, and after any calls, a text is turned down exactly if it has no
character of ids, nothing is found exactly if there are neither spans nor log entries, and otherwise
the answer is the context that is put together from what is recorded, up to the id in it. There is
no answer, and no such context, exactly if a span ends outside the calendar. -/
theorem ask_over_store (store : FlowStore) (timeoutMs ttlMs capacity : Nat)
    (anomaly : AnomalySettings) (calls : List QueryCall) (raw : String) :
    let e : QueryEngine :=
      { head := store.head, timeoutMs, anomaly, cache := { ttlMs, capacity } }
    let s := run e (calls.map (store.gateway, ·))
    let answer := s.ask store.gateway raw
    let spans := (s.engine.spans store.gateway raw).result
    let logs := (s.engine.logs store.gateway raw).result
    ((∃ d, answer = some (.error (.invalid d))) ↔ ¬ raw.toList.any isIdChar) ∧
      (answer = some (.ok none) ↔ spans = some (.ok []) ∧ logs = some (.ok [])) ∧
      ((∃ d, answer = some (.error (.invalid d))) ∨ answer = some (.ok none) ∨
        ∃ a l l' text, acceptId raw .outside = .ok a ∧ spans = some (.ok l) ∧
          logs = some (.ok l') ∧ (answer = none ↔ ∃ x ∈ l, x.endTime? = none) ∧
          ∀ now, answer =
            (FlowContext.assemble? a.id.text ⟨l, l', store.metricsOf a.id⟩ anomaly now).map
              (fun c ↦ .ok (some { c with id := text }))) := by
  intro e s answer spans logs
  obtain ⟨hrules, hfaithful⟩ := faithful_run store (e := e) rfl calls
  have hinvalid : (∃ d, answer = some (.error (.invalid d))) ↔ ¬ raw.toList.any isIdChar := by
    have h (d : IdDefect) :
        answer = some (.error (.invalid d)) ↔ ¬ raw.toList.any isIdChar ∧ d = .empty :=
      QueryEngine.context_eq_invalid_iff.trans acceptId_outside_eq_error_iff
    simp only [h, exists_and_left, exists_eq, and_true]
  refine ⟨hinvalid, ?_⟩
  cases ha : acceptId raw .outside with
  | error d =>
    have hanswer : answer = some (.error (.invalid d)) := QueryEngine.context_of_error ha
    have hspans : spans = some (.error (.invalid d)) := QueryEngine.fetchKind_of_error ha _
    exact ⟨by simp [hanswer, hspans], Or.inl ⟨d, hanswer⟩⟩
  | ok a =>
    have hspans : spans = some (.ok (store.spansOf a.id)) := QueryEngine.fetchKind_of_ok ha rfl
    have hlogs : logs = some (.ok (store.logsOf a.id)) := QueryEngine.fetchKind_of_ok ha rfl
    have hnothing : spans = some (.ok []) ∧ logs = some (.ok []) ↔
        (store.spansOf a.id).isEmpty && (store.logsOf a.id).isEmpty := by
      simp [hspans, hlogs]
    obtain ⟨text, hanswer⟩ := ask_eq_assemble hfaithful hrules.1 ha
    rw [hrules.2.2] at hanswer
    change answer = _ at hanswer
    rw [hnothing]
    by_cases hempty : (store.spansOf a.id).isEmpty && (store.logsOf a.id).isEmpty
    · rw [if_pos hempty] at hanswer
      exact ⟨iff_of_true hanswer hempty, Or.inr (Or.inl hanswer)⟩
    · rw [if_neg hempty] at hanswer
      have hkept : store.spansOf a.id ≠ [] ∨ store.logsOf a.id ≠ [] := by
        by_contra hnil
        exact hempty (by simpa using hnil)
      have hfound : answer ≠ some (.ok none) := by
        intro hnone
        obtain ⟨c, -, hc⟩ := Option.map_eq_some_iff.1 (hanswer.symm.trans hnone)
        cases hc
      refine ⟨iff_of_false hfound hempty, Or.inr (Or.inr ⟨a, _, _, text, rfl, hspans, hlogs, ?_, ?_⟩)⟩
      · rw [hanswer, Option.map_eq_none_iff, FlowContext.assemble?_eq_none_iff]
        rfl
      · intro now
        rw [hanswer, FlowContext.assemble?_congr (s := store.signalsOf a.id) now hkept]
        rfl

/-- A span that takes longer than the calendar is found under its id, and a query for this id has no
answer. -/
theorem no_answer_beside_stored_span :
    let span : SpanRecord :=
      { timestamp := ⟨0, 0⟩, service := "s", name := "n", durationMs := 10000000000000000
        attributes := Dict.ofList [("correlation_id", "flow-1")] }
    let store : FlowStore := ({} : FlowStore).insert (.span span)
    let e : QueryEngine :=
      { head := store.head, timeoutMs := 200, cache := { ttlMs := 300000, capacity := 10 } }
    let s := run e []
    (∃ l, (s.engine.spans store.gateway "flow-1").result = some (.ok l) ∧ l ≠ []) ∧
      s.ask store.gateway "flow-1" = none := by
  intro span store e s
  let id : FlowId := ⟨"flow-1", by decide +kernel⟩
  have ha : acceptId "flow-1" .outside = .ok ⟨id, none⟩ := by
    simp [acceptId, show FlowId.parse "flow-1" = .ok id from FlowId.parse_text id]
  have hstored : (store.spansOf id).isEmpty = false := by decide +kernel
  refine ⟨⟨store.spansOf id, QueryEngine.fetchKind_of_ok ha rfl, ?_⟩, ?_⟩
  · intro hnil
    rw [hnil] at hstored
    cases hstored
  · exact Option.isNone_iff_eq_none.1 (by decide +kernel)

end QuerySession

end FlowCorrelation
