import FlowCorrelation.Cause.Buckets
import FlowCorrelation.ServiceGraph

namespace FlowCorrelation

/-- A bucket that has an outcome. -/
structure Observation (K : Type) where
  outcome : K
  treated : Bool
  stratum : List Bool
deriving BEq, Repr

structure StratumEffect (K : Type) where
  size : Nat
  difference : K

structure Candidate (K : Type) where
  service : String
  metric : String
  effect : K
  /-- The effect, discounted where few buckets were treated. -/
  confidence : K
  treatedBuckets : Nat
deriving BEq, Repr

structure Estimate (K : Type) where
  candidates : List (Candidate K)
  /-- The mean error rate of the buckets that have an outcome. -/
  observedRate : K
  observedBuckets : Nat

/-- The buckets that have an outcome, each with its place in the other lists; there is no result
where one of these is too short. -/
def observations? {K : Type} : List (Option K) → List Bool → List (List Bool) →
    Option (List (Observation K))
  | [], _, _ => some []
  | none :: ys, ts, ss => observations? ys (ts.drop 1) (ss.drop 1)
  | some y :: ys, t :: ts, s :: ss => (observations? ys ts ss).map (⟨y, t, s⟩ :: ·)
  | some _ :: _, _, _ => none

section

variable {K : Type} [Zero K] [Add K] [Sub K] [Mul K] [Div K] [NatCast K]

def arm (l : List (Observation K)) (stratum : List Bool) (treated : Bool) : List K :=
  (l.filter (fun o ↦ o.stratum = stratum && o.treated = treated)).map (·.outcome)

def strata (l : List (Observation K)) : List (List Bool) := (l.map (·.stratum)).eraseDups

def stratumEffect? (l : List (Observation K)) (stratum : List Bool) : Option (StratumEffect K) :=
  let treated := arm l stratum true
  let control := arm l stratum false
  if treated.isEmpty || control.isEmpty then none
  else some ⟨treated.length + control.length, runningMean treated - runningMean control⟩

def backdoorEffect (l : List (Observation K)) : Option K :=
  let parts := (strata l).filterMap (stratumEffect? l)
  if parts.isEmpty then none
  else some (parts.foldl (fun sum p ↦ sum + (p.size : K) * p.difference) 0 /
    ((parts.map (·.size)).foldl (· + ·) 0 : Nat))

end

namespace Estimate

variable {K : Type} [Zero K] [One K] [Add K] [Sub K] [Mul K] [Div K] [Neg K] [NatCast K]
  [LT K] [DecidableLT K] [Scalar K]

def confidence (effect : K) (treatedBuckets : Nat) : K :=
  effect * (1 - Scalar.exp (-(treatedBuckets : K)))

def treatedBuckets (outcomes : List (Option K)) (active : List Bool) : Nat :=
  (outcomes.zip active).countP (fun (y, t) ↦ y.isSome && t)

def strataOf (treatments : List Treatment) (services : List String) (count : Nat) :
    List (List Bool) :=
  let adjusting := treatments.filter (fun t ↦ services.contains t.series.service)
  (List.range count).map (fun i ↦ adjusting.map (fun t ↦ t.active.getD i false))

def candidate? (g : ServiceGraph) (outcomes : List (Option K)) (treatments : List Treatment)
    (t : Treatment) : Option (Candidate K) :=
  let n := treatedBuckets outcomes t.active
  if n = 0 then none
  else
    let strata := strataOf treatments (g.callers t.series.service) outcomes.length
    match (observations? outcomes t.active strata).bind backdoorEffect with
    | none => none
    | some x =>
      let effect := clampUnit x
      if 0 < effect then some ⟨t.series.service, t.series.metric, effect, confidence effect n, n⟩
      else none

def notLessConfident (a b : Candidate K) : Bool := Scalar.atMost b.confidence a.confidence

def ofTreatments (g : ServiceGraph) (outcomes : List (Option K)) (treatments : List Treatment) :
    Estimate K :=
  let observed := outcomes.filterMap id
  { candidates := (treatments.filterMap (candidate? g outcomes treatments)).mergeSort notLessConfident
    observedRate := if observed.isEmpty then 0 else runningMean observed
    observedBuckets := observed.length }

def ofSignals? (s : Signals) (g : ServiceGraph) (b : Buckets) (anomaly : AnomalySettings) :
    Option (Estimate K) :=
  s.endings?.map (fun endings ↦ ofTreatments g (b.outcomes endings) (b.treatments s anomaly))

/-- The error rate to be expected if the candidate had never been active. -/
def counterfactualRate (e : Estimate K) (c : Candidate K) : K :=
  if e.observedBuckets = 0 then e.observedRate
  else clampUnit (e.observedRate - c.effect * ((c.treatedBuckets : K) / (e.observedBuckets : K)))

end Estimate

end FlowCorrelation
