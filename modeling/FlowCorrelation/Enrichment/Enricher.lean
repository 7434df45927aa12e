import FlowCorrelation.Counters
import FlowCorrelation.Enrichment.Resolution
import FlowCorrelation.UrlTemplate
import FlowCorrelation.ValueGuard

namespace FlowCorrelation

structure Enricher where
  registrar : Registrar := {}
  values : GuardSettings := {}
  guard : Option ValueGuard := none

structure Moment where
  now : Instant
  random : List UInt8 := []

def Moment.occasion (t : Moment) : Occasion := ⟨t.now.toMillis.toNat, t.random⟩

/-- The attributes after the guard has seen them, or nothing where the guard has no answer. -/
structure Bounding where
  guard : ValueGuard
  attributes : Option Attributes
  /-- The names of attributes whose value was replaced, in order. -/
  replaced : List String := []
  notices : List Notice := []

/-- The enricher and the counts after a record, the record, and what was said. No record comes out
where the guard has no answer. -/
structure Enriched (α : Type) where
  enricher : Enricher
  counters : EnrichmentCounters
  result : Option α
  notices : List Notice := []

def sameName (a b : String) : Bool := a.map Char.toLower = b.map Char.toLower

namespace Enricher

def ofSettings (ids : IdSettings) (values : GuardSettings) : Enricher where
  registrar := { settings := ids }
  values := values
  guard := if values.enabled then some (ValueGuard.ofSettings values) else none

def idAttribute (e : Enricher) : String := e.registrar.settings.attributeName

def drops (e : Enricher) (name : String) : Bool := e.values.dropped.any (sameName · name)

def dropAttributes (e : Enricher) (a : Attributes) : Attributes := a.filter (fun k _ ↦ !e.drops k)

def change (f : String → String) (name : String) (a : Attributes) : Attributes :=
  match a.get? name with
  | none => a
  | some v => a.insert name (f v)

def normalize (e : Enricher) (a : Attributes) : Attributes :=
  if e.values.normalizeUrls then
    urlAttributes.foldl (fun a name ↦ change normalizeUrl name a)
      (change normalizeMethod methodAttribute a)
  else a

end Enricher

namespace ValueGuard

def bound (g : ValueGuard) (now : Instant) (service : String) :
    List String → Attributes → Bounding
  | [], a => { guard := g, attributes := some a }
  | name :: names, a =>
    match a.get? name with
    | none => g.bound now service names a
    | some v =>
      if v = overflowValue then g.bound now service names a
      else
        let answer := g.allow now name v
        match answer.admitted with
        | none => { guard := answer.guard, attributes := none, notices := answer.notices name }
        | some true =>
          let b := answer.guard.bound now service names a
          { b with notices := answer.notices name ++ b.notices }
        | some false =>
          let b := answer.guard.bound now service names (a.insert name overflowValue)
          { b with
            replaced := name :: b.replaced
            notices := answer.notices name ++
              .warn s!"Cardinality limit reached for {name} on {service}; value replaced" :: b.notices }

end ValueGuard

namespace Enricher

/-- Writes an id into the link of a metric point, which is made if a span was active. An id that
stands there already is kept. -/
def linkExemplar (name : String) (id : FlowId) (m : MetricPoint) : MetricPoint :=
  let e? := if m.hasActiveSpan then
      some (m.exemplar.getD ⟨m.traceId.getD "", m.spanId.getD "", ∅⟩)
    else m.exemplar
  { m with exemplar := e?.map (fun e ↦
      if e.filteredAttributes.contains name then e
      else { e with filteredAttributes := e.filteredAttributes.insert name id.text }) }

def linksAnew (name : String) : Record → Bool
  | .metric m => m.hasActiveSpan && !m.exemplar.any (fun e ↦ e.filteredAttributes.contains name)
  | _ => false

def write (e : Enricher) (x : Resolution) (r : Record) : Record :=
  let name := e.idAttribute
  let r := if x.provenance = .existing then r else r.withAttributes (r.attributes.insert name x.id.text)
  let r := if e.registrar.settings.toResource then r.withResource (r.resource.insert name x.id.text) else r
  match r with
  | .metric m => .metric (linkExemplar name x.id m)
  | r => r

def count (c : EnrichmentCounters) (x : Resolution) (links : Bool) : EnrichmentCounters :=
  let c := match x.provenance with
    | .existing => { c with idsExisting := c.idsExisting + 1 }
    | .baggage | .header | .body => { c with idsExtracted := c.idsExtracted + 1 }
    | .derived => { c with idsDerived := c.idsDerived + 1 }
    | .generated => { c with idsGenerated := c.idsGenerated + 1 }
  { c with
    idsSanitized := if x.sanitized then c.idsSanitized + 1 else c.idsSanitized
    exemplarsLinked := if links then c.exemplarsLinked + 1 else c.exemplarsLinked }

def stamp (e : Enricher) (r : Record) : Outcome → Record
  | .resolved x => e.write x r
  | _ => r

def countOutcome (e : Enricher) (c : EnrichmentCounters) (r : Record) : Outcome → EnrichmentCounters
  | .resolved x => count c x (linksAnew e.idAttribute r)
  | .rejected _ => { c with idsRejected := c.idsRejected + 1 }
  | .unresolved => c

def kindLabel : RecordKind → String
  | .span => "Span"
  | .log => "Log"
  | .metric => "Metric"

def outcomeNotices (r : Record) : Outcome → List Notice
  | .resolved _ => []
  | .rejected d => [.debug s!"Record from {r.envelope.service} passed through without id: {d.message}"]
  | .unresolved => [.debug s!"No correlation id for {kindLabel r.kind} from {r.envelope.service}"]

def bound (e : Enricher) (t : Moment) (service : String) (a : Attributes) :
    Option ValueGuard × Option Attributes × List String × List Notice :=
  match e.guard with
  | none => (none, some a, [], [])
  | some g =>
    let b := g.bound t.now service e.values.bounded a
    (some b.guard, b.attributes, b.replaced, b.notices)

def enrich (e : Enricher) (c : EnrichmentCounters) (t : Moment) (r : Record) : Enriched Record :=
  let kept := e.dropAttributes r.attributes
  let (guard, bounded, replaced, said) := e.bound t r.envelope.service (e.normalize kept)
  let e := { e with guard := guard }
  let c := { c with
    recordsProcessed := c.recordsProcessed + 1
    attributesDropped := c.attributesDropped + (r.attributes.size - kept.size) }
  let c := replaced.foldl EnrichmentCounters.recordRejection c
  match bounded with
  | none => ⟨e, c, none, said⟩
  | some a =>
    let r := r.withAttributes a
    let outcome := e.registrar.resolve t.occasion r
    { enricher := e
      counters := e.countOutcome c r outcome
      result := some (e.stamp r outcome)
      notices := said ++ e.registrar.notices t.occasion r ++ outcomeNotices r outcome }

/-- Takes a batch of records through all steps, in order; `random` gives the random bytes for each
place in the batch. -/
def process (e : Enricher) (c : EnrichmentCounters) (now : Instant) (random : Nat → List UInt8)
    (batch : List Record) : Enriched (List Record) :=
  go 0 e c batch
where
  go (i : Nat) (e : Enricher) (c : EnrichmentCounters) : List Record → Enriched (List Record)
    | [] => ⟨e, c, some [], []⟩
    | r :: rs =>
      let first := e.enrich c ⟨now, random i⟩ r
      match first.result with
      | none => ⟨first.enricher, first.counters, none, first.notices⟩
      | some r =>
        let rest := go (i + 1) first.enricher first.counters rs
        { rest with
          result := rest.result.map (r :: ·)
          notices := first.notices ++ rest.notices }

end Enricher

end FlowCorrelation
