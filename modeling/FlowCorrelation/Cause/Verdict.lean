import FlowCorrelation.Cause.Chain
import FlowCorrelation.Cause.Effect

namespace FlowCorrelation

structure Suspect (K : Type) where
  service : String
  score : K

structure Evidence (K : Type) where
  graph : ServiceGraph
  estimate : Estimate K
  chain : Chain K

inductive Verdict (K : Type) where
  | noServices
  | noIncidents
  | noSuspects
  /-- The score of the best suspect is too low. -/
  | doubtful (s : Suspect K) (e : Evidence K)
  | decided (s : Suspect K) (e : Evidence K)

variable {K : Type} [Zero K] [One K] [Add K] [Sub K] [Mul K] [Div K] [Neg K] [NatCast K] [LT K]
  [DecidableLT K] [LE K] [DecidableLE K] [Scalar K]

def lastGreatest (l : List (String × K)) : Option (String × K) :=
  match l with
  | [] => none
  | e :: r => some (r.foldl (fun best x ↦ if Scalar.atMost best.2 x.2 then x else best) e)

namespace Evidence

def causalScores (e : Evidence K) (s : CauseSettings) : Dict K :=
  e.estimate.candidates.foldl (fun d c ↦ d.update c.service (fun old ↦
    old.getD (Scalar.ofFloat s.causalWeight * c.confidence))) ∅

def scores (e : Evidence K) (s : CauseSettings) : Dict K :=
  match e.chain.origin? with
  | none => e.causalScores s
  | some origin => (e.causalScores s).update origin (fun old ↦
      old.getD 0 + Scalar.ofFloat s.chainWeight * e.chain.strength)

/-- The service with the greatest score; of several the last in order of name. -/
def bestSuspect (e : Evidence K) (s : CauseSettings) : Option (Suspect K) :=
  (lastGreatest (e.scores s).entries).map (fun (service, score) ↦ ⟨service, score⟩)

def judge (e : Evidence K) (s : CauseSettings) : Verdict K :=
  if e.estimate.candidates.isEmpty && e.chain.isEmpty then .noIncidents
  else match e.bestSuspect s with
    | none => .noSuspects
    | some x =>
      if x.score < Scalar.ofFloat s.threshold then .doubtful x e else .decided x e

def topCandidate (e : Evidence K) (service : String) : Option (Candidate K) :=
  e.estimate.candidates.find? (fun c ↦ c.service = service)

def ofContext? (c : FlowContext) (s : CauseSettings) (anomaly : AnomalySettings) :
    Option (Evidence K) := do
  let g := ServiceGraph.ofContext c
  let estimate ← Estimate.ofSignals? c.signals g (Buckets.ofPeriod c.period s.bucketCount) anomaly
  let events ← c.signals.causeEvents? anomaly
  return ⟨g, estimate, Chain.ofEvents g s events⟩

end Evidence

/-- The confidence in a suspect, which is its score and at most one. -/
def Suspect.confidence (x : Suspect K) : K := if x.score < 1 then x.score else 1

/-- Decides on the cause of what went wrong in a flow. There is no verdict if a span ends outside
the calendar. -/
def Verdict.ofContext? (c : FlowContext) (s : CauseSettings) (anomaly : AnomalySettings) :
    Option (Verdict K) :=
  if (ServiceGraph.ofContext c).isEmpty then some .noServices
  else (Evidence.ofContext? c s anomaly).map (fun e ↦ e.judge s)

end FlowCorrelation
