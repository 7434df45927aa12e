import FlowCorrelation.Context.Basic

namespace FlowCorrelation

structure Buckets where
  start : Instant
  widthMs : Float
  count : Nat
  count_pos : 0 < count

/-- When a span or a log entry ended, and whether it was an error. -/
structure Ending where
  time : Instant
  isError : Bool
deriving DecidableEq, Repr

/-- Where in the buckets a series of metric points is active. -/
structure Treatment where
  series : SeriesKey
  active : List Bool
deriving DecidableEq, Repr

namespace Buckets

def minWidthMs : Float := 2.220446049250313e-16

def ofPeriod (p : Period) (count : Nat) : Buckets where
  start := p.start
  widthMs :=
    let width := p.millis / Float.ofNat (max 1 count)
    if minWidthMs < width then width else minWidthMs
  count := max 1 count
  count_pos := by omega

/-- The bucket of an instant; what lies before or after all buckets counts to the nearest. -/
def index (b : Buckets) (t : Instant) : Nat :=
  let offset := millisSince t b.start
  if offset ≤ 0 then 0 else min (offset / b.widthMs).toUInt64.toNat (b.count - 1)

theorem index_lt (b : Buckets) (t : Instant) : b.index t < b.count := by
  have := b.count_pos
  simp only [index]
  split <;> omega

end Buckets

def SpanRecord.ending? (s : SpanRecord) : Option Ending := s.endTime?.map (fun t ↦ ⟨t, s.isError⟩)

def LogEntry.ending (l : LogEntry) : Ending := ⟨l.timestamp, l.isError⟩

namespace Signals

def endings? (s : Signals) : Option (List Ending) :=
  (s.spans.mapM SpanRecord.ending?).map (fun l ↦ l ++ s.logs.map LogEntry.ending)

def seriesKeys (s : Signals) : List SeriesKey :=
  (s.metrics.foldl (fun (d : Dict NameSet) p ↦
    d.update p.service (fun row ↦ (row.getD ∅).insert p.name ())) ∅).entries.flatMap
      (fun (service, row) ↦ row.keys.map (fun metric ↦ ⟨service, metric⟩))

end Signals

namespace Buckets

variable {K : Type} [Div K] [NatCast K]

def outcome (b : Buckets) (endings : List Ending) (i : Nat) : Option K :=
  let here := endings.filter (fun e ↦ b.index e.time = i)
  if here.isEmpty then none else some ((here.countP (·.isError) : K) / (here.length : K))

def outcomes (b : Buckets) (endings : List Ending) : List (Option K) :=
  (List.range b.count).map (b.outcome endings)

def isActive (b : Buckets) (anomalous : List MetricPoint) (i : Nat) : Bool :=
  anomalous.any (fun p ↦ b.index p.timestamp = i || b.index p.timestamp + 1 = i)

def treatments (b : Buckets) (s : Signals) (anomaly : AnomalySettings) : List Treatment :=
  let anomalous := flagged s.metrics (anomaly.detect s.metrics)
  s.seriesKeys.map (fun key ↦
    ⟨key, (List.range b.count).map (b.isActive (anomalous.filter (fun p ↦ p.series = key)))⟩)

end Buckets

end FlowCorrelation
