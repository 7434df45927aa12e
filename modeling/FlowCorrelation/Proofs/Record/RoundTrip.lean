import FlowCorrelation.Proofs.Json.Fields
import FlowCorrelation.Record.Json

namespace FlowCorrelation

open Json (Members LegibleMembers)

def Record.numbers : Record → List Float
  | .span s => [s.durationMs]
  | .log _ => []
  | .metric m => m.value :: m.baseline.toList ++ m.anomalyScore.toList

theorem Record.mem_numbers_metric {p : MetricPoint} {x : Float} :
    x ∈ (Record.metric p).numbers ↔ x = p.value ∨ x ∈ p.baseline ∨ x ∈ p.anomalyScore := by
  simp [numbers]

/-- Whether the numbers in a record are finite, and these and its time are read back from their
text. -/
structure Record.ReadsBack (r : Record) : Prop where
  finite : ∀ x ∈ r.numbers, x.isFinite
  numerals : ∀ x ∈ r.numbers, Json.number (Json.realChars x) = some (.real x, [])
  timestamp : Timestamp.read? (Timestamp.render r.timestamp) = some r.timestamp

theorem Json.Members.attributes_of_get? {m : Members} {name : String} {d : Attributes}
    (h : m.get? name = Members.attributesValue? d) :
    m.withDefault name ∅ Json.asAttributes? = some d := by
  rw [Members.withDefault, h, Members.attributesValue?]
  cases hd : d.isEmpty with
  | true =>
    have hempty : d = ∅ := Dict.ext (List.isEmpty_iff.1 hd)
    rw [hempty]
    rfl
  | false => exact Json.dict?_ofDict .text (fun _ ↦ rfl) d

namespace Envelope

theorem namedBy_activeSpan (e : Envelope) : e.activeSpan.NamedBy ["trace_id", "span_id"] :=
  (Members.namedBy_ofOption _ _ _).append (Members.namedBy_ofOption _ _ _)

theorem namedBy_leading (e : Envelope) :
    e.leading.NamedBy ["timestamp", "service", "trace_id", "span_id"] :=
  (Members.namedBy_self _).append e.namedBy_activeSpan

theorem namedBy_trailing (e : Envelope) :
    e.trailing.NamedBy ["baggage", "attributes", "resource"] :=
  ((Members.namedBy_ofOption _ _ _).append (Members.namedBy_attributesField _ _)).append
    (Members.namedBy_attributesField _ _)

structure StandsIn (e : Envelope) (m : Members) : Prop where
  timestamp : m.get? "timestamp" = some (Json.ofInstant e.timestamp)
  service : m.get? "service" = some (.text e.service)
  traceId : m.get? "trace_id" = e.traceId.map .text
  spanId : m.get? "span_id" = e.spanId.map .text
  baggage : m.get? "baggage" = e.baggage.map .text
  attributes : m.get? "attributes" = Members.attributesValue? e.attributes
  resource : m.get? "resource" = Members.attributesValue? e.resource

theorem ofMembers?_of_standsIn {e : Envelope} {m : Members} (h : e.StandsIn m)
    (htime : Timestamp.read? (Timestamp.render e.timestamp) = some e.timestamp) :
    ofMembers? m = some e := by
  have hinstant : Json.asInstant? (Json.ofInstant e.timestamp) = some e.timestamp := by
    rw [Json.asInstant?, Json.ofInstant, Json.asText?, Option.bind_some, htime]
  simp only [ofMembers?, Members.required_of_get? h.timestamp, hinstant,
    Members.required_of_get? h.service, Json.asText?,
    Members.optional_of_get? h.traceId Json.optional_text,
    Members.optional_of_get? h.spanId Json.optional_text,
    Members.optional_of_get? h.baggage Json.optional_text,
    Members.attributes_of_get? h.attributes, Members.attributes_of_get? h.resource,
    Option.bind_eq_bind, Option.bind_some, pure]

end Envelope

namespace SpanRecord

theorem namedBy_members (s : SpanRecord) : s.members.NamedBy fieldNames :=
  ((((s.namedBy_leading.append (Members.namedBy_ofOption _ _ _)).append
    (Members.namedBy_self _)).append (Members.namedBy_ofOption _ _ _)).append s.namedBy_trailing)

theorem standsIn_members (s : SpanRecord) : s.toEnvelope.StandsIn s.members := by
  constructor <;> simp [members, Envelope.leading, Envelope.activeSpan, Envelope.trailing]

theorem get?_members (s : SpanRecord) :
    s.members.get? "parent_span_id" = s.parentSpanId.map .text ∧
      s.members.get? "name" = some (.text s.name) ∧
      s.members.get? "duration_ms" = some (Json.ofFloat s.durationMs) ∧
      s.members.get? "status" = some (.text s.status.name) ∧
      s.members.get? "status_message" = s.statusMessage.map .text := by
  refine ⟨?_, ?_, ?_, ?_, ?_⟩ <;>
    simp [members, Envelope.leading, Envelope.activeSpan, Envelope.trailing]

theorem choice_name (isNothing : Json → Bool) (status : SpanStatus) :
    Json.choiceWith? isNothing SpanStatus.table (.text status.name) = some status := by
  cases status <;> rfl

theorem ofMembers?_members (isNothing : Json → Bool) {s : SpanRecord}
    (h : (Record.span s).ReadsBack) : ofMembers? isNothing s.members = some s := by
  have henvelope := Envelope.ofMembers?_of_standsIn s.standsIn_members h.timestamp
  have hfinite : s.durationMs.isFinite := h.finite s.durationMs List.mem_cons_self
  obtain ⟨hparent, hname, hduration, hstatus, hmessage⟩ := s.get?_members
  simp only [ofMembers?, henvelope, Members.optional_of_get? hparent Json.optional_text,
    Members.required_of_get? hname, Json.asText?, Members.withDefault_of_get? hduration,
    Json.asFloat?_ofFloat hfinite, Members.withDefault_of_get? hstatus, choice_name,
    Members.optional_of_get? hmessage Json.optional_text, Option.bind_eq_bind, Option.bind_some,
    pure]

end SpanRecord

namespace LogEntry

theorem namedBy_members (l : LogEntry) : l.members.NamedBy fieldNames :=
  (l.namedBy_leading.append (Members.namedBy_self _)).append l.namedBy_trailing

theorem standsIn_members (l : LogEntry) : l.toEnvelope.StandsIn l.members := by
  constructor <;> simp [members, Envelope.leading, Envelope.activeSpan, Envelope.trailing]

theorem get?_members (l : LogEntry) :
    l.members.get? "severity" = some (.text l.severity.name) ∧
      l.members.get? "body" = some (.text l.body) := by
  constructor <;> simp [members, Envelope.leading, Envelope.activeSpan, Envelope.trailing]

theorem choice_name (isNothing : Json → Bool) (severity : Severity) :
    Json.choiceWith? isNothing Severity.table (.text severity.name) = some severity := by
  cases severity <;> rfl

theorem ofMembers?_members (isNothing : Json → Bool) {l : LogEntry}
    (h : (Record.log l).ReadsBack) : ofMembers? isNothing l.members = some l := by
  have henvelope := Envelope.ofMembers?_of_standsIn l.standsIn_members h.timestamp
  obtain ⟨hseverity, hbody⟩ := l.get?_members
  simp only [ofMembers?, henvelope, Members.withDefault_of_get? hseverity, choice_name,
    Members.withDefault_of_get? hbody, Json.asText?, Option.bind_eq_bind, Option.bind_some, pure]

end LogEntry

namespace Exemplar

theorem ofJson?_toJson (e : Exemplar) : ofJson? e.toJson = some e := by
  let m : Members := [("trace_id", .text e.traceId), ("span_id", .text e.spanId)] ++
    Json.attributesField "filtered_attributes" e.filteredAttributes
  have hnamed : m.NamedBy fieldNames :=
    (Members.namedBy_self _).append (Members.namedBy_attributesField _ _)
  have hfields : e.toJson.fields? fieldNames = some m := hnamed.fields?_object (by decide)
  have htrace : m.get? "trace_id" = some (.text e.traceId) := by simp [m]
  have hspan : m.get? "span_id" = some (.text e.spanId) := by simp [m]
  have hfiltered : m.get? "filtered_attributes" = Members.attributesValue? e.filteredAttributes := by
    simp [m]
  simp only [ofJson?, hfields, Members.required_of_get? htrace, Members.required_of_get? hspan,
    Json.asText?, Members.attributes_of_get? hfiltered, Option.bind_eq_bind, Option.bind_some, pure]

theorem optional_toJson {o : Option Exemplar} :
    ∀ e ∈ o, Json.optional ofJson? e.toJson = some (some e) := by
  intro e _
  have hread : Json.optional ofJson? e.toJson = (ofJson? e.toJson).map some := rfl
  rw [hread, ofJson?_toJson, Option.map_some]

end Exemplar

namespace MetricPoint

theorem namedBy_members (p : MetricPoint) : p.members.NamedBy fieldNames :=
  (((((Members.namedBy_self _).append (Members.namedBy_ofOption _ _ _)).append
    (Members.namedBy_ofOption _ _ _)).append p.namedBy_activeSpan).append
    (Members.namedBy_ofOption _ _ _)).append p.namedBy_trailing

theorem standsIn_members (p : MetricPoint) : p.toEnvelope.StandsIn p.members := by
  constructor <;> simp [members, Envelope.activeSpan, Envelope.trailing]

theorem get?_members (p : MetricPoint) :
    p.members.get? "name" = some (.text p.name) ∧
      p.members.get? "value" = some (Json.ofFloat p.value) ∧
      p.members.get? "baseline" = p.baseline.map Json.ofFloat ∧
      p.members.get? "anomaly_score" = p.anomalyScore.map Json.ofFloat ∧
      p.members.get? "exemplar" = p.exemplar.map Exemplar.toJson := by
  refine ⟨?_, ?_, ?_, ?_, ?_⟩ <;> simp [members, Envelope.activeSpan, Envelope.trailing]

theorem ofMembers?_members {p : MetricPoint} (h : (Record.metric p).ReadsBack) :
    ofMembers? p.members = some p := by
  have henvelope := Envelope.ofMembers?_of_standsIn p.standsIn_members h.timestamp
  have hfinite (x : Float) (hx : x = p.value ∨ x ∈ p.baseline ∨ x ∈ p.anomalyScore) : x.isFinite :=
    h.finite x (Record.mem_numbers_metric.2 hx)
  have hvalueFinite : p.value.isFinite := hfinite p.value (Or.inl rfl)
  have hbaselineFinite : ∀ x ∈ p.baseline, x.isFinite := fun x hx ↦ hfinite x (Or.inr (Or.inl hx))
  have hscoreFinite : ∀ x ∈ p.anomalyScore, x.isFinite := fun x hx ↦ hfinite x (Or.inr (Or.inr hx))
  obtain ⟨hname, hvalue, hbaseline, hscore, hexemplar⟩ := p.get?_members
  simp only [ofMembers?, henvelope, Members.required_of_get? hname, Json.asText?,
    Members.required_of_get? hvalue, Json.asFloat?_ofFloat hvalueFinite,
    Members.optional_of_get? hbaseline (Json.optional_ofFloat hbaselineFinite),
    Members.optional_of_get? hscore (Json.optional_ofFloat hscoreFinite),
    Members.optional_of_get? hexemplar Exemplar.optional_toJson, Option.bind_eq_bind,
    Option.bind_some, pure]

end MetricPoint

namespace Record

theorem ofJson?_object {m : Members} {names : List String} (h : m.NamedBy names)
    (htype : "type" ∉ names) (kind : String) :
    ofJson? (.object (("type", .text kind) :: m)) = ofKind? kind (.object m) := by
  -- The kind is taken off before the fields are read, and no field has its name.
  have habsent : ∀ e ∈ m, e.1 ≠ "type" := by
    intro e he heq
    exact htype (heq ▸ h.subset (List.mem_map_of_mem he))
  have hfilter : (("type", Json.text kind) :: m).filter (fun e ↦ e.1 ≠ "type") = m := by
    simpa using habsent
  have hunique : Members.unique (("type", .text kind) :: m) ["type"] := by
    have hcount : (m.map Prod.fst).count "type" = 0 :=
      List.count_eq_zero.2 (fun hmem ↦ htype (h.subset hmem))
    simp [Members.unique, Members.length_all, hcount]
  have hkind : Members.required (("type", .text kind) :: m) "type" Json.asText? = some kind :=
    Members.required_of_get? (j := .text kind) (by simp)
  rw [ofJson?, if_pos hunique, hkind, Option.bind_some, hfilter]

theorem ofJson?_toJson {r : Record} (h : r.ReadsBack) : ofJson? r.toJson = some r := by
  cases r with
  | span s =>
    have hfields := s.namedBy_members.fields?_object (by decide)
    rw [toJson, ofJson?_object s.namedBy_members (by decide), ofKind?, if_pos rfl, hfields,
      Option.bind_some, SpanRecord.ofMembers?_members Json.isBare h, Option.map_some]
  | log l =>
    have hfields := l.namedBy_members.fields?_object (by decide)
    rw [toJson, ofJson?_object l.namedBy_members (by decide), ofKind?, if_neg (by decide),
      if_pos rfl, hfields, Option.bind_some, LogEntry.ofMembers?_members Json.isBare h, Option.map_some]
  | metric m =>
    have hfields := m.namedBy_members.fields?_object (by decide)
    rw [toJson, ofJson?_object m.namedBy_members (by decide), ofKind?, if_neg (by decide),
      if_neg (by decide), if_pos rfl, MetricPoint.ofJson?, hfields, Option.bind_some,
      MetricPoint.ofMembers?_members h, Option.map_some]

end Record

namespace Envelope

theorem legibleMembers_activeSpan {depth : Nat} (e : Envelope) :
    LegibleMembers depth e.activeSpan :=
  (LegibleMembers.ofOption (fun s _ ↦ .text s) _).append
    (LegibleMembers.ofOption (fun s _ ↦ .text s) _)

theorem legibleMembers_leading {depth : Nat} (e : Envelope) :
    LegibleMembers depth e.leading :=
  LegibleMembers.append (.cons (.text _) (.cons (.text _) .nil)) e.legibleMembers_activeSpan

theorem legibleMembers_trailing {depth : Nat} (e : Envelope) :
    LegibleMembers (depth + 1) e.trailing :=
  ((LegibleMembers.ofOption (fun s _ ↦ .text s) _).append
    (LegibleMembers.attributesField _ _)).append (LegibleMembers.attributesField _ _)

end Envelope

theorem Exemplar.legible_toJson {depth : Nat} (e : Exemplar) :
    Json.Legible (depth + 2) e.toJson := by
  refine Json.Legible.object (LegibleMembers.append ?_ (.attributesField _ _))
  exact .cons (.text _) (.cons (.text _) .nil)

namespace Record

variable {r : Record} {depth : Nat}

theorem ReadsBack.legible_ofFloat (h : r.ReadsBack) {x : Float} (hx : x ∈ r.numbers) :
    Json.Legible depth (Json.ofFloat x) :=
  Json.legible_ofFloat (h.finite x hx) (h.numerals x hx)

theorem legible_toJson (h : r.ReadsBack) (depth : Nat) : Json.Legible (depth + 3) r.toJson := by
  cases r with
  | span s =>
    have hduration : Json.Legible (depth + 2) (Json.ofFloat s.durationMs) :=
      h.legible_ofFloat List.mem_cons_self
    refine Json.Legible.object (LegibleMembers.cons (.text _) ?_)
    exact (((s.legibleMembers_leading.append (.ofOption (fun s _ ↦ .text s) _)).append
      (.cons (.text _) (.cons hduration (.cons (.text _) .nil)))).append
      (.ofOption (fun s _ ↦ .text s) _)).append s.legibleMembers_trailing
  | log l =>
    refine Json.Legible.object (LegibleMembers.cons (.text _) ?_)
    exact (l.legibleMembers_leading.append (.cons (.text _) (.cons (.text _) .nil))).append
      l.legibleMembers_trailing
  | metric m =>
    have hvalue : Json.Legible (depth + 2) (Json.ofFloat m.value) :=
      h.legible_ofFloat (mem_numbers_metric.2 (Or.inl rfl))
    have hbaseline : ∀ x ∈ m.baseline, Json.Legible (depth + 2) (Json.ofFloat x) := fun x hx ↦
      h.legible_ofFloat (mem_numbers_metric.2 (Or.inr (Or.inl hx)))
    have hscore : ∀ x ∈ m.anomalyScore, Json.Legible (depth + 2) (Json.ofFloat x) := fun x hx ↦
      h.legible_ofFloat (mem_numbers_metric.2 (Or.inr (Or.inr hx)))
    refine Json.Legible.object (LegibleMembers.cons (.text _) ?_)
    have hfirst : LegibleMembers (depth + 2) [("timestamp", Json.ofInstant m.timestamp),
        ("service", .text m.service), ("name", .text m.name), ("value", Json.ofFloat m.value)] :=
      .cons (.text _) (.cons (.text _) (.cons (.text _) (.cons hvalue .nil)))
    exact ((((hfirst.append (.ofOption hbaseline _)).append (.ofOption hscore _)).append
      m.legibleMembers_activeSpan).append (.ofOption (fun e _ ↦ e.legible_toJson) _)).append
      m.legibleMembers_trailing

/-- A record is read back from its text. -/
theorem read?_render (h : r.ReadsBack) : read? r.render = some r := by
  have hlegible : Json.Legible Json.maxDepth r.toJson := legible_toJson h 124
  rw [read?, render, hlegible.read?_render, Option.bind_some, ofJson?_toJson h]

end Record

end FlowCorrelation
