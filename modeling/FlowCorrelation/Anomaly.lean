import FlowCorrelation.Numeral.Scalar
import FlowCorrelation.Record.Basic
import FlowCorrelation.Settings.Basic

namespace FlowCorrelation

def squaredDistances : List Float → Float
  | [] => 0.0
  | x :: l =>
    (l.foldl (fun (i, sum, v) y ↦
      let sum := sum + y
      let d := Float.ofNat i * y - sum
      (i + 1, sum, v + d * d / Float.ofNat (i * (i - 1)))) ((2 : Nat), x, (0.0 : Float))).2.2

/-- The standard deviation of a sample; there is none below two values. -/
def standardDeviation (l : List Float) : Float :=
  if l.length < 2 then 0.0 / 0.0
  else Float.sqrt (squaredDistances l / (Float.ofNat l.length - 1.0))

structure SeriesKey where
  service : String
  metric : String
deriving DecidableEq, Repr

def MetricPoint.series (p : MetricPoint) : SeriesKey := ⟨p.service, p.name⟩

structure Distribution where
  mean : Float
  deviation : Float

namespace AnomalySettings

def flagsPoint (s : AnomalySettings) (p : MetricPoint) : Bool :=
  p.anomalyScore.any (fun score ↦ s.scoreThreshold ≤ score)
    || p.baseline.any (fun b ↦ s.baselineDeviation * b.abs < (p.value - b).abs)

/-- The distribution against which the points of a series are judged, unless the series is too
short or its values are all but equal. -/
def distribution? (s : AnomalySettings) (values : List Float) : Option Distribution :=
  let deviation := standardDeviation values
  if values.length < s.minSeriesLength ∨ !deviation.isFinite ∨ deviation ≤ 2.220446049250313e-16 then none
  else some ⟨runningMean values, deviation⟩

def flagsValue (s : AnomalySettings) (d : Distribution) (x : Float) : Bool :=
  s.zThreshold ≤ ((x - d.mean) / d.deviation).abs

end AnomalySettings

/-- Adds a value to its series; a series that is not there yet comes last. -/
def addToSeries (key : SeriesKey) (x : Float) :
    List (SeriesKey × List Float) → List (SeriesKey × List Float)
  | [] => [(key, [x])]
  | (k, xs) :: r => if k = key then (k, xs ++ [x]) :: r else (k, xs) :: addToSeries key x r

def seriesValues (points : List MetricPoint) : List (SeriesKey × List Float) :=
  points.foldl (fun l p ↦ if p.baseline.isNone then addToSeries p.series p.value l else l) []

def AnomalySettings.detect (s : AnomalySettings) (points : List MetricPoint) : List Bool :=
  let judged := (seriesValues points).map (fun (k, xs) ↦ (k, s.distribution? xs))
  points.map (fun p ↦
    s.flagsPoint p ||
      (p.baseline.isNone &&
        ((judged.find? (fun e ↦ e.1 = p.series)).bind Prod.snd).any (fun d ↦ s.flagsValue d p.value)))

theorem AnomalySettings.length_detect (anomaly : AnomalySettings) (points : List MetricPoint) :
    (anomaly.detect points).length = points.length := by
  rw [detect, List.length_map]

end FlowCorrelation
