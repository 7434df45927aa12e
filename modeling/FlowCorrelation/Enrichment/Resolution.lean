import FlowCorrelation.Enrichment.Baggage
import FlowCorrelation.Enrichment.Digest
import FlowCorrelation.FlowId.Basic
import FlowCorrelation.Journal
import FlowCorrelation.Record.Json
import FlowCorrelation.Settings.Basic

namespace FlowCorrelation

inductive Provenance where
  | existing
  | baggage
  | header
  | body
  | derived
  | generated
deriving DecidableEq, Repr

def Provenance.label : Provenance → String
  | .existing => "Existing"
  | .baggage => "Baggage"
  | .header => "Header"
  | .body => "Body"
  | .derived => "Derived"
  | .generated => "Generated"

structure Resolution where
  id : FlowId
  provenance : Provenance
  sanitized : Bool
deriving DecidableEq

inductive Outcome where
  | resolved (r : Resolution)
  /-- An id made here turned out to be none. -/
  | rejected (d : IdDefect)
  | unresolved
deriving DecidableEq

structure Hints where
  baggage : Option String := none
  /-- Attribute maps in the order in which they are searched. -/
  maps : List Attributes := []
  body : Option Json.Members := none
  mayGenerate : Bool := false

/-- When an id is stamped, and the random bytes for it. -/
structure Occasion where
  millis : Nat
  random : List UInt8

/-- Decides on ids: settings and the digest of trace ids. -/
structure Registrar where
  settings : IdSettings := {}
  digest : String → List UInt8 := Digest.ofText

def bodyKeys : List String := ["correlation_id", "correlationId", "request_id", "requestId"]

namespace Resolution

/-- Makes an id of a carried text. A repaired text is a new id, so that it is written back even if
it stood under the id attribute. -/
def ofCarried (source : Provenance) (raw : String) : Except IdDefect Resolution := do
  let a ← acceptId raw .outside
  let provenance := if source = .existing ∧ a.repaired.isSome then .header else source
  return ⟨a.id, provenance, a.repaired.isSome⟩

def carriedNotices (source : Provenance) (raw : String) : List Notice :=
  match acceptId raw .outside with
  | .error d => [.warn s!"Discarding unusable correlation id from {source.label}: {d.message}"]
  | .ok a => match a.repaired with
    | none => []
    | some d =>
      [.warn s!"Sanitized correlation id from {source.label}: {d.message} (now {a.id.text})"]

def firstCarried : List (Provenance × String) → Option Resolution
  | [] => none
  | (source, raw) :: l => match ofCarried source raw with
    | .ok r => some r
    | .error _ => firstCarried l

def firstCarriedNotices : List (Provenance × String) → List Notice
  | [] => []
  | (source, raw) :: l => carriedNotices source raw ++
    match ofCarried source raw with
    | .ok _ => []
    | .error _ => firstCarriedNotices l

end Resolution

namespace Registrar

def derive (g : Registrar) (millis : Nat) (traceId : String) : Except IdDefect FlowId :=
  FlowId.compose g.settings.head millis (Digest.hex ((g.digest traceId).take 4))

def generate (g : Registrar) (o : Occasion) : Except IdDefect FlowId :=
  FlowId.compose g.settings.head o.millis (Digest.hex (o.random.take 4))

def headerSpellings (header : String) : List String :=
  let small := Text.lower header
  [header, small, "http.request.header." ++ small]

def headerValue? (g : Registrar) (m : Attributes) : Option String :=
  g.settings.headers.findSome? (fun h ↦ (headerSpellings h).findSome? m.get?)

def bodyValue? (g : Registrar) (body : Json.Members) : Option String :=
  (g.settings.attributeName :: bodyKeys).findSome? (fun k ↦ (body.get? k).bind Json.asText?)

def carried (g : Registrar) (h : Hints) : List (Provenance × String) :=
  (h.maps.filterMap (·.get? g.settings.attributeName)).map (fun raw ↦ (.existing, raw)) ++
  (if g.settings.fromBaggage then
    (h.baggage.bind (Baggage.value? · g.settings.baggageKey)).toList.map (fun raw ↦ (.baggage, raw))
   else []) ++
  (h.maps.filterMap g.headerValue?).map (fun raw ↦ (.header, raw)) ++
  (h.body.bind g.bodyValue?).toList.map (fun raw ↦ (.body, raw))

def stamped (source : Provenance) : Except IdDefect FlowId → Outcome
  | .ok id => .resolved ⟨id, source, false⟩
  | .error d => .rejected d

def made (g : Registrar) (o : Occasion) (traceId : Option String) (mayGenerate : Bool) :
    Option (Provenance × Except IdDefect FlowId) :=
  match traceId.filter (fun t ↦ g.settings.fromTrace && t ≠ "") with
  | some t => some (.derived, g.derive o.millis t)
  | none => if g.settings.generate && mayGenerate then some (.generated, g.generate o) else none

def resolveHints (g : Registrar) (o : Occasion) (traceId : Option String) (h : Hints) : Outcome :=
  match Resolution.firstCarried (g.carried h) with
  | some r => .resolved r
  | none => match g.made o traceId h.mayGenerate with
    | some (source, id) => stamped source id
    | none => .unresolved

def hintNotices (g : Registrar) (o : Occasion) (traceId : Option String) (h : Hints) : List Notice :=
  Resolution.firstCarriedNotices (g.carried h) ++
    match Resolution.firstCarried (g.carried h) with
    | some _ => []
    | none => match g.made o traceId h.mayGenerate with
      | some (source, .error d) =>
        [.warn s!"Rejected malformed {source.label} correlation id: {d.message}"]
      | _ => []

/-- What a record offers. A metric point never gets a generated id, which nothing else would
share. -/
def hints (g : Registrar) (r : Record) : Hints where
  baggage := r.envelope.baggage
  maps := [r.resource, r.attributes]
  body := match r with
    | .log l => if g.settings.fromBody then l.jsonBody? else none
    | _ => none
  mayGenerate := r.kind ≠ .metric

/-- The trace a record belongs to; a metric point without one takes that of its exemplar. -/
def traceOf (r : Record) : Option String :=
  r.envelope.traceId.or (r.exemplar.map Exemplar.traceId)

def resolve (g : Registrar) (o : Occasion) (r : Record) : Outcome :=
  g.resolveHints o (traceOf r) (g.hints r)

def notices (g : Registrar) (o : Occasion) (r : Record) : List Notice :=
  g.hintNotices o (traceOf r) (g.hints r)

end Registrar

end FlowCorrelation
