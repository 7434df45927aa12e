import FlowCorrelation.Cause.Verdict
import FlowCorrelation.Context.Json
import FlowCorrelation.Journal

namespace FlowCorrelation

open Json (Members)

structure ChainReport where
  events : List CauseEvent
  weight : Float
  strength : Float
  interpretation : String
deriving BEq, Repr

structure Report where
  flow : String
  service : String
  metric : Option String := none
  confidence : Float
  chain : ChainReport
  counterfactual : Option String := none
  candidates : List (Candidate Float)
  narrative : Option String := none
deriving BEq, Repr

inductive Finding where
  | conclusive (r : Report)
  /-- Why no cause is named, and which service comes nearest to one. -/
  | inconclusive (reason : String) (nearest : Option String) (confidence : Float)
deriving BEq, Repr

namespace CauseKind

def name : CauseKind → String
  | .metricAnomaly => "metric_anomaly"
  | .spanError => "span_error"
  | .logError => "log_error"
  | .other => "other"

def table : List (String × CauseKind) :=
  [.metricAnomaly, .spanError, .logError, .other].map (fun k ↦ (k.name, k))

end CauseKind

namespace CauseEvent

def ofJson? (j : Json) : Option CauseEvent := do
  let m ← j.fields? ["timestamp", "service", "kind", "description"]
  return {
    timestamp := ← m.required "timestamp" Json.asInstant?
    service := ← m.required "service" Json.asText?
    kind := ← m.required "kind" (Json.choice? CauseKind.table)
    description := ← m.required "description" Json.asText? }

def toJson (e : CauseEvent) : Json :=
  .object [("timestamp", .ofInstant e.timestamp), ("service", .text e.service),
    ("kind", .text e.kind.name), ("description", .text e.description)]

end CauseEvent

namespace ChainReport

def ofChain (c : Chain Float) : ChainReport :=
  ⟨c.events, c.weight, c.strength, FlowCorrelation.interpretation c.events⟩

def ofJson? (j : Json) : Option ChainReport := do
  let m ← j.fields? ["events", "weight", "strength", "interpretation"]
  return {
    events := ← m.required "events" (Json.list? CauseEvent.ofJson?)
    weight := ← m.required "weight" Json.asFloat?
    strength := ← m.required "strength" Json.asFloat?
    interpretation := ← m.required "interpretation" Json.asText? }

def toJson (c : ChainReport) : Json :=
  .object [("events", .list (c.events.map CauseEvent.toJson)), ("weight", .ofFloat c.weight),
    ("strength", .ofFloat c.strength), ("interpretation", .text c.interpretation)]

end ChainReport

namespace Candidate

def ofJson? (j : Json) : Option (Candidate Float) := do
  let m ← j.fields? ["service", "metric", "effect", "confidence", "treated_buckets"]
  return {
    service := ← m.required "service" Json.asText?
    metric := ← m.required "metric" Json.asText?
    effect := ← m.required "effect" Json.asFloat?
    confidence := ← m.required "confidence" Json.asFloat?
    treatedBuckets := ← m.required "treated_buckets" (Json.asNat? 64) }

def toJson (c : Candidate Float) : Json :=
  .object [("service", .text c.service), ("metric", .text c.metric), ("effect", .ofFloat c.effect),
    ("confidence", .ofFloat c.confidence), ("treated_buckets", .ofNat c.treatedBuckets)]

end Candidate

namespace Report

def fieldNames : List String :=
  ["correlation_id", "root_cause_service", "root_cause_metric", "confidence", "causal_chain",
    "counterfactual", "candidates", "narrative"]

def ofJson? (j : Json) : Option Report := do
  let m ← j.fields? fieldNames
  return {
    flow := ← m.required "correlation_id" Json.asText?
    service := ← m.required "root_cause_service" Json.asText?
    metric := ← m.optional "root_cause_metric" Json.asText?
    confidence := ← m.required "confidence" Json.asFloat?
    chain := ← m.required "causal_chain" ChainReport.ofJson?
    counterfactual := ← m.optional "counterfactual" Json.asText?
    candidates := ← m.required "candidates" (Json.list? Candidate.ofJson?)
    narrative := ← m.optional "narrative" Json.asText? }

def toJson (r : Report) : Json :=
  .object ([("correlation_id", .text r.flow), ("root_cause_service", .text r.service)] ++
    Members.ofOption "root_cause_metric" .text r.metric ++
    [("confidence", .ofFloat r.confidence), ("causal_chain", r.chain.toJson)] ++
    Members.ofOption "counterfactual" .text r.counterfactual ++
    [("candidates", .list (r.candidates.map Candidate.toJson))] ++
    Members.ofOption "narrative" .text r.narrative)

def counterfactualText (e : Estimate Float) (c : Candidate Float) : String :=
  "If " ++ c.service ++ "'s " ++ c.metric ++
    " had stayed within its normal baseline, the error rate would be approximately " ++
    Numeral.fixed 1 (e.counterfactualRate c * 100) ++ "% (observed " ++
    Numeral.fixed 1 (e.observedRate * 100) ++ "%)"

def ofSuspect (flow : String) (x : Suspect Float) (e : Evidence Float) : Report where
  flow := flow
  service := x.service
  metric := (e.topCandidate x.service).map (·.metric)
  confidence := x.confidence
  chain := ChainReport.ofChain e.chain
  counterfactual := (e.topCandidate x.service).map (counterfactualText e.estimate)
  candidates := e.estimate.candidates

end Report

namespace Finding

def ofVerdict (flow : String) (threshold : Float) : Verdict Float → Finding
  | .noServices => .inconclusive "context has no services" none 0
  | .noIncidents => .inconclusive "no metric anomalies and no error events" none 0
  | .noSuspects => .inconclusive "no candidate services" none 0
  | .doubtful x _ =>
    .inconclusive
      s!"best confidence {Numeral.fixed 2 x.score} is below threshold {Numeral.fixed 2 threshold}"
      (some x.service) x.score
  | .decided x e => .conclusive (Report.ofSuspect flow x e)

def ofContext? (c : FlowContext) (s : CauseSettings) (anomaly : AnomalySettings) : Option Finding :=
  (Verdict.ofContext? c s anomaly).map (ofVerdict c.id s.threshold)

def isConclusive : Finding → Bool
  | .conclusive _ => true
  | .inconclusive .. => false

def report? : Finding → Option Report
  | .conclusive r => some r
  | .inconclusive .. => none

def ofJson? (j : Json) : Option Finding := do
  let m ← j.asMembers?
  guard (Members.unique m ["status"])
  match ← m.required "status" Json.asText? with
  | "conclusive" => do
    guard (Members.unique m ["result"])
    return .conclusive (← m.required "result" Report.ofJson?)
  | "inconclusive" => do
    guard (Members.unique m ["reason", "best_candidate", "best_confidence"])
    return .inconclusive (← m.required "reason" Json.asText?)
      (← m.optional "best_candidate" Json.asText?) (← m.required "best_confidence" Json.asFloat?)
  | _ => none

def toJson : Finding → Json
  | .conclusive r => .object [("status", .text "conclusive"), ("result", r.toJson)]
  | .inconclusive reason nearest confidence =>
    .object ([("status", .text "inconclusive"), ("reason", .text reason)] ++
      Members.ofOption "best_candidate" .text nearest ++ [("best_confidence", .ofFloat confidence)])

end Finding

def Verdict.notices (flow : String) : Verdict Float → List Notice
  | .doubtful x e | .decided x e =>
    [.debug (s!"RCA for {flow}: best {x.service} at {Numeral.fixed 3 x.score} " ++
      s!"({e.estimate.candidates.length} candidates, chain of {e.chain.events.length})")]
  | _ => []

end FlowCorrelation
