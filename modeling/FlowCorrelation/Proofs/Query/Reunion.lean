import FlowCorrelation.Proofs.Enrichment.Attributes
import FlowCorrelation.Proofs.Enrichment.Precedence
import FlowCorrelation.Proofs.Query.Transparency

namespace FlowCorrelation

variable {e : Enricher} {t : Moment} {r : Record} {p : Passage} {g : Registrar} {a : Attributes}
  {source : Provenance} {raw : String} {l : List (Provenance × String)} {store : FlowStore}
  {q : QueryEngine} {now : Nat} {accepted : AcceptedId}

namespace Resolution

def hasIdChar (c : Provenance × String) : Bool := c.2.toList.any isIdChar

theorem ofCarried_of_usable (h : raw.toList.any isIdChar) (source : Provenance) :
    ∃ accepted x, acceptId raw .outside = .ok accepted ∧ ofCarried source raw = .ok x ∧
      x.id = accepted.id ∧ (source ≠ .existing → x.provenance = source) := by
  cases haccept : acceptId raw .outside with
  | error d => exact absurd h (acceptId_outside_eq_error_iff.1 haccept).1
  | ok accepted =>
    refine ⟨accepted, _, rfl, by rw [ofCarried, haccept]; rfl, rfl, fun hsource ↦ ?_⟩
    simp [hsource]

theorem firstCarried_of_find? (h : l.find? hasIdChar = some (source, raw)) :
    ∃ accepted x, acceptId raw .outside = .ok accepted ∧ firstCarried l = some x ∧
      x.id = accepted.id ∧ (source ≠ .existing → x.provenance = source) := by
  induction l with
  | nil => cases h
  | cons c l ih =>
    by_cases husable : hasIdChar c
    · rw [List.find?_cons_of_pos husable] at h
      obtain rfl := Option.some.inj h
      obtain ⟨accepted, x, haccept, hx, hid, hprovenance⟩ := ofCarried_of_usable husable source
      exact ⟨accepted, x, haccept, by rw [firstCarried, hx], hid, hprovenance⟩
    · rw [List.find?_cons_of_neg husable] at h
      obtain ⟨d, hd⟩ := (ofCarried_eq_error_iff c.1).2 (mt isUsable_iff.1 husable)
      have hnext : firstCarried (c :: l) = firstCarried l := by rw [firstCarried, hd]
      rw [hnext]
      exact ih h

end Resolution

namespace Registrar

/-- The first of the texts of a record that can be made an id, and where it stands. -/
def firstUsable? (g : Registrar) (r : Record) : Option (Provenance × String) :=
  (g.carried (g.hints r)).find? Resolution.hasIdChar

theorem carried_withAttributes
    (hown : a.get? g.settings.attributeName = r.attributes.get? g.settings.attributeName)
    (hheaders : ∀ name ∈ g.headerNames, a.get? name = r.attributes.get? name) :
    g.carried (g.hints (r.withAttributes a)) = g.carried (g.hints r) := by
  have hheader : g.headerValue? a = g.headerValue? r.attributes := by
    rw [headerValue?_eq, headerValue?_eq, ← List.head?_filterMap, ← List.head?_filterMap,
      List.filterMap_congr hheaders]
  have hhints : g.hints (r.withAttributes a) = { g.hints r with maps := [r.resource, a] } := by
    cases r <;> rfl
  have hmaps : (g.hints r).maps = [r.resource, r.attributes] := rfl
  simp only [carried, hhints, hmaps, List.filterMap_cons, List.filterMap_nil, hown, hheader]

end Registrar

namespace Enricher

/-- Bounding leaves the texts that a record carries, where it has no id attribute and its headers
are spared. -/
theorem carried_bounding (hown : r.attributes.get? e.idAttribute = none)
    (hheaders : ∀ name ∈ e.registrar.headerNames, r.attributes.get? name = none ∨ e.Spares name)
    (h : (e.bounding t r).2.1 = some a) :
    e.registrar.carried (e.registrar.hints (r.withAttributes a)) =
      e.registrar.carried (e.registrar.hints r) := by
  refine Registrar.carried_withAttributes ((get?_bounding_of_absent hown h).trans hown.symm)
    (fun name hname ↦ ?_)
  rcases hheaders name hname with habsent | hspares
  · rw [get?_bounding_of_absent habsent h, habsent]
  · exact hspares.get?_bounding h

/-- A record is filed under the id that is made of its first usable text, if this text does not
stand under the id attribute already. -/
theorem keyOf_output (hp : e.pass? t r = some p) (hown : r.attributes.get? e.idAttribute = none)
    (hheaders : ∀ name ∈ e.registrar.headerNames, r.attributes.get? name = none ∨ e.Spares name)
    (hfirst : e.registrar.firstUsable? r = some (source, raw)) (hsource : source ≠ .existing)
    (hname : store.attributeName = e.idAttribute) :
    ∃ accepted, acceptId raw .outside = .ok accepted ∧
      store.keyOf p.output = some (accepted.id.identity store.head) := by
  obtain ⟨a, ha, rfl⟩ := Option.map_eq_some_iff.1 hp
  obtain ⟨accepted, x, haccept, hx, hid, hprovenance⟩ := Resolution.firstCarried_of_find? hfirst
  have hresolve : e.registrar.resolve t.occasion (r.withAttributes a) = .resolved x := by
    rw [Registrar.resolve, Registrar.resolveHints, carried_bounding hown hheaders ha, hx]
  refine ⟨accepted, haccept, FlowStore.keyOf_of_attribute ?_⟩
  dsimp only
  rw [hname, hresolve, stamp, attributes_write, if_neg (hprovenance hsource ▸ hsource),
    Dict.get?_insert_self, hid]

end Enricher

/-- Whether a record is among the signals. -/
def Signals.Has (s : Signals) : Record → Prop
  | .span x => x ∈ s.spans
  | .log x => x ∈ s.logs
  | .metric x => x ∈ s.metrics

theorem FlowStore.has_signalsOf_iff {id : FlowId} :
    (store.signalsOf id).Has r ↔ r ∈ store.recordsOf r.kind id := by
  cases r <;> simp [signalsOf, Signals.Has, recordsOf, Record.kind]

/-- The flow of a stored span or log entry is found when nothing is cached for it, unless one of its
spans ends outside the calendar. -/
theorem QueryEngine.context_of_stored (haccept : acceptId raw .outside = .ok accepted)
    (hmiss : q.cache.peek? now (accepted.id.identity q.head) = none) (hkind : r.kind ≠ .metric)
    (hr : (store.signalsOf accepted.id).Has r) :
    let answer := (q.context store.gateway now raw).result
    (answer = none ↔ ∃ x ∈ store.spansOf accepted.id, x.endTime? = none) ∧
      (answer = none ∨ ∃ c, answer = some (.ok (some c)) ∧
        c.signals = store.signalsOf accepted.id) := by
  intro answer
  have hkept : ¬ ((store.spansOf accepted.id).isEmpty && (store.logsOf accepted.id).isEmpty) := by
    intro hempty
    rw [Bool.and_eq_true, List.isEmpty_iff, List.isEmpty_iff] at hempty
    cases r with
    | span x => exact List.ne_nil_of_mem hr hempty.1
    | log x => exact List.ne_nil_of_mem hr hempty.2
    | metric x => exact hkind rfl
  have hanswer : answer = (FlowContext.assemble? accepted.id.text (store.signalsOf accepted.id)
      q.anomaly .epoch).map (fun c ↦ .ok (some c)) := by
    rw [show answer = _ from context_of_miss haccept hmiss, uncached_gateway, if_neg hkept]
  rw [hanswer, Option.map_eq_none_iff, FlowContext.assemble?_eq_none_iff]
  refine ⟨Iff.rfl, ?_⟩
  cases hc : FlowContext.assemble? accepted.id.text (store.signalsOf accepted.id) q.anomaly .epoch with
  | none => exact Or.inl (FlowContext.assemble?_eq_none_iff.1 hc)
  | some c => exact Or.inr ⟨c, rfl, FlowContext.signals_of_assemble? hc⟩

theorem FlowStore.has_signalsOf_insert {id : FlowId}
    (hkey : store.keyOf r = some (id.identity store.head)) :
    ((store.insert r).signalsOf id).Has r :=
  has_signalsOf_iff.2 ((store.mem_recordsOf_insert r id).2 (Or.inl hkey))

namespace QueryEngine

/-- A span or log entry without an id attribute, whose first usable text stands in its baggage, in a
header that is spared or in its body, is found by a fresh query for this very text after it was
enriched and stored. There is no answer exactly if a span of the flow ends outside the calendar, and
no record to store only if the window of the guard reaches back beyond it. -/
theorem context_of_sent_text (e : Enricher) (t : Moment) (r : Record) (source : Provenance)
    (raw : String) (s : FlowStore) (q : QueryEngine) (now : Nat) (hkind : r.kind ≠ .metric)
    (hown : r.attributes.get? e.idAttribute = none)
    (hheaders : ∀ name ∈ e.registrar.headerNames, r.attributes.get? name = none ∨ e.Spares name)
    (hfirst : e.registrar.firstUsable? r = some (source, raw)) (hsource : source ≠ .existing)
    (hname : s.attributeName = e.idAttribute)
    (hfresh : ∀ accepted, acceptId raw .outside = .ok accepted →
      q.cache.peek? now (accepted.id.identity q.head) = none) :
    ((∀ c, (e.enrich c t r).result = none) ∧
        ∃ g, e.guard = some g ∧ t.now.sub? g.window = none) ∨
      ∃ out accepted, (∀ c, (e.enrich c t r).result = some out) ∧ out.kind = r.kind ∧
        acceptId raw .outside = .ok accepted ∧
        let store := s.insert out
        let answer := (q.context store.gateway now raw).result
        (answer = none ↔ ∃ x ∈ store.spansOf accepted.id, x.endTime? = none) ∧
          (answer = none ∨ ∃ c, answer = some (.ok (some c)) ∧ c.signals.Has out) := by
  cases hp : e.pass? t r with
  | none =>
    exact Or.inl ⟨fun c ↦ by rw [Enricher.enrich_result, hp, Option.map_none],
      Enricher.sub?_eq_none_of_pass? hp⟩
  | some p =>
    obtain ⟨accepted, haccept, hkey⟩ :=
      Enricher.keyOf_output hp hown hheaders hfirst hsource hname
    have hhas := FlowStore.has_signalsOf_insert hkey
    have hsame : p.output.kind = r.kind := Enricher.kind_output hp
    obtain ⟨hnone, hanswer⟩ :=
      context_of_stored haccept (hfresh accepted haccept) (hsame ▸ hkind) hhas
    refine Or.inr ⟨p.output, accepted, fun c ↦ by rw [Enricher.enrich_result, hp, Option.map_some],
      hsame, haccept, hnone, hanswer.imp_right ?_⟩
    rintro ⟨c, hc, hsignals⟩
    exact ⟨c, hc, hsignals ▸ hhas⟩

/-- A log entry is found by the text in its body, markers of injection and all. -/
theorem context_of_sent_markers :
    let r : Record := .log ⟨{ timestamp := ⟨0, 0⟩, service := "s" }, .info,
      "\x7b\"request_id\":\"ord--7;drop table\"\x7d"⟩
    let e : Enricher := {}
    let q : QueryEngine := { timeoutMs := 200, cache := { ttlMs := 300000, capacity := 10 } }
    ∃ out c, (∀ k, (e.enrich k ⟨⟨0, 0⟩, []⟩ r).result = some out) ∧
      (q.context (({} : FlowStore).insert out).gateway 0 "ord--7;drop table").result =
        some (.ok (some c)) ∧ c.signals.Has out := by
  intro r e q
  let id : FlowId := ⟨"ord-7droptable", by decide +kernel⟩
  obtain ⟨p, hp, hspans⟩ : ∃ p, e.pass? ⟨⟨0, 0⟩, []⟩ r = some p ∧
      ((({} : FlowStore).insert p.output).spansOf id).length = 0 := ⟨_, rfl, by decide +kernel⟩
  have hheaders : ∀ name ∈ e.registrar.headerNames, r.attributes.get? name = none ∨ e.Spares name :=
    fun _ _ ↦ Or.inl rfl
  rcases context_of_sent_text e ⟨⟨0, 0⟩, []⟩ r .body "ord--7;drop table" {} q 0 (by decide) rfl
      hheaders (by decide +kernel) (by decide) rfl (fun _ _ ↦ rfl) with
    ⟨-, g, hg, -⟩ | ⟨out, accepted, hout, -, haccept, hnone, hanswer⟩
  · cases hg
  obtain rfl : p.output = out := by
    have hresult := hout {}
    rw [Enricher.enrich_result, hp] at hresult
    exact Option.some.inj hresult
  have hid : accepted.id = id :=
    FlowId.ext ((acceptId_outside_eq_ok_iff.1 haccept).1.trans (by decide +kernel))
  rcases hanswer with hanswer | ⟨c, hc, hhas⟩
  · obtain ⟨x, hx, -⟩ := hnone.1 hanswer
    rw [hid, List.eq_nil_of_length_eq_zero hspans] at hx
    cases hx
  · exact ⟨p.output, c, hout, hc, hhas⟩

/-- A span that takes longer than the calendar is filed under the header it was sent with, and a
query for this header has no answer. -/
theorem no_context_of_sent_endless_span :
    let r : Record := .span
      { timestamp := ⟨0, 0⟩, service := "s", name := "n", durationMs := 10000000000000000
        attributes := Dict.ofList [("X-Request-ID", "req 7")] }
    let e : Enricher := {}
    let q : QueryEngine := { timeoutMs := 200, cache := { ttlMs := 300000, capacity := 10 } }
    e.registrar.firstUsable? r = some (.header, "req 7") ∧ e.Spares "X-Request-ID" ∧
      ∃ out, (∀ k, (e.enrich k ⟨⟨0, 0⟩, []⟩ r).result = some out) ∧
        out.attributes.get? "correlation_id" = some "req7" ∧
        (q.context (({} : FlowStore).insert out).gateway 0 "req 7").result = none := by
  intro r e q
  have hspares : e.Spares "X-Request-ID" :=
    ⟨by decide +kernel, fun _ ↦ by decide +kernel, fun h ↦ by cases h⟩
  let id : FlowId := ⟨"req7", by decide +kernel⟩
  have haccept : acceptId "req 7" .outside = .ok ⟨id, some (.illegalCharacter ' ')⟩ :=
    acceptId_outside_eq_ok_iff.2 ⟨by decide +kernel, by decide +kernel⟩
  obtain ⟨p, hp, hown, hkind, hkey, hends⟩ : ∃ p, e.pass? ⟨⟨0, 0⟩, []⟩ r = some p ∧
      p.output.attributes.get? "correlation_id" = some "req7" ∧ p.output.kind ≠ .metric ∧
      ({} : FlowStore).keyOf p.output = some (id.identity "olly") ∧
      ∃ x ∈ (({} : FlowStore).insert p.output).spansOf id, x.endTime? = none :=
    ⟨_, rfl, by decide +kernel, by decide +kernel, by decide +kernel, by decide +kernel⟩
  refine ⟨by decide +kernel, hspares, p.output,
    fun k ↦ by rw [Enricher.enrich_result, hp, Option.map_some], hown, ?_⟩
  have hmiss : q.cache.peek? 0 (id.identity q.head) = none := rfl
  obtain ⟨hnone, -⟩ := context_of_stored haccept hmiss hkind (FlowStore.has_signalsOf_insert hkey)
  exact hnone.2 hends

end QueryEngine

end FlowCorrelation
