import FlowCorrelation.Dict
import FlowCorrelation.Json.Fields

namespace FlowCorrelation

structure EnrichmentCounters where
  recordsProcessed : Nat := 0
  idsExisting : Nat := 0
  /-- Ids from baggage, headers or log bodies. -/
  idsExtracted : Nat := 0
  idsDerived : Nat := 0
  idsGenerated : Nat := 0
  idsSanitized : Nat := 0
  idsRejected : Nat := 0
  exemplarsLinked : Nat := 0
  attributesDropped : Nat := 0
  guardRejections : Nat := 0
  rejectionsByAttribute : Dict Nat := ∅
deriving BEq, Repr

structure QueryCounters where
  requests : Nat := 0
  cacheHits : Nat := 0
  cacheMisses : Nat := 0
  notFound : Nat := 0
  partialResults : Nat := 0
  timeouts : Nat := 0
  storageErrors : Nat := 0
  validationErrors : Nat := 0
deriving BEq, Repr

structure AnalysisCounters where
  runs : Nat := 0
  conclusive : Nat := 0
  inconclusive : Nat := 0
  narratorSuccess : Nat := 0
  narratorFailures : Nat := 0
deriving BEq, Repr

structure Counters where
  enrichment : EnrichmentCounters := {}
  query : QueryCounters := {}
  analysis : AnalysisCounters := {}
deriving BEq, Repr

def EnrichmentCounters.recordRejection (c : EnrichmentCounters) (name : String) : EnrichmentCounters :=
  { c with
    guardRejections := c.guardRejections + 1
    rejectionsByAttribute := c.rejectionsByAttribute.update name (fun n ↦ n.getD 0 + 1) }

def shownCount (n : Nat) : Nat := n % 0x10000000000000000

namespace Json

def ofCount (n : Nat) : Json := .ofNat (shownCount n)

end Json

/-- A counter among others: the name under which it is shown, its value, and how it is changed. -/
structure Counter (σ : Type) where
  name : String
  get : σ → Nat
  modify : (Nat → Nat) → σ → σ

namespace Counter

variable {σ τ : Type}

def within (part : σ → τ) (modifyPart : (τ → τ) → σ → σ) (c : Counter τ) : Counter σ where
  name := c.name
  get s := c.get (part s)
  modify f := modifyPart (c.modify f)

def members (l : List (Counter σ)) (s : σ) : Json.Members :=
  l.map (fun c ↦ (c.name, .ofCount (c.get s)))

end Counter

namespace EnrichmentCounters

def all : List (Counter EnrichmentCounters) := [
  ⟨"records_processed", (·.recordsProcessed), fun f c ↦ { c with recordsProcessed := f c.recordsProcessed }⟩,
  ⟨"ids_existing", (·.idsExisting), fun f c ↦ { c with idsExisting := f c.idsExisting }⟩,
  ⟨"ids_extracted", (·.idsExtracted), fun f c ↦ { c with idsExtracted := f c.idsExtracted }⟩,
  ⟨"ids_derived", (·.idsDerived), fun f c ↦ { c with idsDerived := f c.idsDerived }⟩,
  ⟨"ids_generated", (·.idsGenerated), fun f c ↦ { c with idsGenerated := f c.idsGenerated }⟩,
  ⟨"ids_sanitized", (·.idsSanitized), fun f c ↦ { c with idsSanitized := f c.idsSanitized }⟩,
  ⟨"ids_rejected", (·.idsRejected), fun f c ↦ { c with idsRejected := f c.idsRejected }⟩,
  ⟨"exemplars_linked", (·.exemplarsLinked), fun f c ↦ { c with exemplarsLinked := f c.exemplarsLinked }⟩,
  ⟨"attributes_dropped", (·.attributesDropped),
    fun f c ↦ { c with attributesDropped := f c.attributesDropped }⟩,
  ⟨"guard_rejections", (·.guardRejections), fun f c ↦ { c with guardRejections := f c.guardRejections }⟩]

def toJson (c : EnrichmentCounters) : Json :=
  .object (Counter.members all c ++
    [("rejections_by_attribute", Json.ofDict .ofCount c.rejectionsByAttribute)])

end EnrichmentCounters

namespace QueryCounters

def all : List (Counter QueryCounters) := [
  ⟨"requests", (·.requests), fun f c ↦ { c with requests := f c.requests }⟩,
  ⟨"cache_hits", (·.cacheHits), fun f c ↦ { c with cacheHits := f c.cacheHits }⟩,
  ⟨"cache_misses", (·.cacheMisses), fun f c ↦ { c with cacheMisses := f c.cacheMisses }⟩,
  ⟨"not_found", (·.notFound), fun f c ↦ { c with notFound := f c.notFound }⟩,
  ⟨"partial", (·.partialResults), fun f c ↦ { c with partialResults := f c.partialResults }⟩,
  ⟨"timeouts", (·.timeouts), fun f c ↦ { c with timeouts := f c.timeouts }⟩,
  ⟨"storage_errors", (·.storageErrors), fun f c ↦ { c with storageErrors := f c.storageErrors }⟩,
  ⟨"validation_errors", (·.validationErrors), fun f c ↦ { c with validationErrors := f c.validationErrors }⟩]

def toJson (c : QueryCounters) : Json := .object (Counter.members all c)

end QueryCounters

namespace AnalysisCounters

def all : List (Counter AnalysisCounters) := [
  ⟨"runs", (·.runs), fun f c ↦ { c with runs := f c.runs }⟩,
  ⟨"conclusive", (·.conclusive), fun f c ↦ { c with conclusive := f c.conclusive }⟩,
  ⟨"inconclusive", (·.inconclusive), fun f c ↦ { c with inconclusive := f c.inconclusive }⟩,
  ⟨"narrator_success", (·.narratorSuccess), fun f c ↦ { c with narratorSuccess := f c.narratorSuccess }⟩,
  ⟨"narrator_failures", (·.narratorFailures),
    fun f c ↦ { c with narratorFailures := f c.narratorFailures }⟩]

def toJson (c : AnalysisCounters) : Json := .object (Counter.members all c)

end AnalysisCounters

def Counters.all : List (Counter Counters) :=
  EnrichmentCounters.all.map
      (.within (·.enrichment) (fun f c ↦ { c with enrichment := f c.enrichment })) ++
    QueryCounters.all.map (.within (·.query) (fun f c ↦ { c with query := f c.query })) ++
    AnalysisCounters.all.map (.within (·.analysis) (fun f c ↦ { c with analysis := f c.analysis }))

def Counters.add? (c : Counters) (name : String) (n : Nat) : Option Counters :=
  (all.find? (·.name = name)).map (fun k ↦ k.modify (· + n) c)

def Counters.toJson (c : Counters) (uptime : Nat) : Json :=
  .object [
    ("uptime_seconds", .ofNat uptime),
    ("enrichment", c.enrichment.toJson),
    ("query", c.query.toJson),
    ("analysis", c.analysis.toJson)]

/-- A metric family in the text format of Prometheus: help, type and one line for each sample,
which is a label, if there is one, and a count. -/
def exposition (name help type : String) (samples : List (Option (String × String) × Nat)) : String :=
  "# HELP " ++ name ++ " " ++ help ++ "\n# TYPE " ++ name ++ " " ++ type ++ "\n" ++
    String.join (samples.map (fun (label, n) ↦
      name ++ (match label with
        | none => ""
        | some (k, v) => "\x7b" ++ k ++ "=\"" ++ v ++ "\"\x7d") ++
      " " ++ toString (shownCount n) ++ "\n")) ++ "\n"

def counterText (name help : String) (n : Nat) : String := exposition name help "counter" [(none, n)]

def countersText (name help label : String) (samples : List (String × Nat)) : String :=
  exposition name help "counter" (samples.map (fun (v, n) ↦ (some (label, v), n)))

def Counters.toPrometheus (c : Counters) (uptime : Nat) : String :=
  let e := c.enrichment
  let q := c.query
  let a := c.analysis
  String.join [
    exposition "olly_uptime_seconds" "Time since the engine started" "gauge" [(none, uptime)],
    counterText "olly_enrich_records_total" "Records processed by the enrichment stage" e.recordsProcessed,
    countersText "olly_enrich_ids_total" "Correlation ids resolved by source" "source"
      [("existing", e.idsExisting), ("extracted", e.idsExtracted), ("derived", e.idsDerived),
        ("generated", e.idsGenerated)],
    counterText "olly_enrich_ids_sanitized_total" "External ids that required sanitization" e.idsSanitized,
    counterText "olly_enrich_ids_rejected_total" "Malformed ids discarded" e.idsRejected,
    counterText "olly_enrich_exemplars_total" "Metric exemplars linked to spans" e.exemplarsLinked,
    counterText "olly_enrich_attributes_dropped_total" "Attributes removed by drop list" e.attributesDropped,
    countersText "olly_guard_rejections_total" "Attribute values rejected by the cardinality guard"
      "attribute" e.rejectionsByAttribute.entries,
    counterText "olly_query_requests_total" "Context requests" q.requests,
    countersText "olly_query_cache_total" "Context cache lookups" "result"
      [("hit", q.cacheHits), ("miss", q.cacheMisses)],
    counterText "olly_query_not_found_total" "Requests for unknown ids" q.notFound,
    counterText "olly_query_partial_total" "Contexts returned with degraded sub-queries" q.partialResults,
    counterText "olly_query_timeouts_total" "Trace fetches that exceeded the budget" q.timeouts,
    counterText "olly_query_storage_errors_total" "Fatal storage failures" q.storageErrors,
    counterText "olly_query_validation_errors_total" "Requests with unusable ids" q.validationErrors,
    countersText "olly_rca_runs_total" "Root-cause analyses by outcome" "outcome"
      [("conclusive", a.conclusive), ("inconclusive", a.inconclusive)],
    countersText "olly_narrator_calls_total" "Narrator calls by result" "result"
      [("ok", a.narratorSuccess), ("failed", a.narratorFailures)]]

end FlowCorrelation
