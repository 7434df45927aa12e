import FlowCorrelation.Anomaly
import FlowCorrelation.Context.ServiceCall
import FlowCorrelation.Context.Timeline

namespace FlowCorrelation

structure FlowSummary where
  totalSpans : Nat := 0
  totalLogs : Nat := 0
  totalMetrics : Nat := 0
  /-- Spans that failed and log entries of severity `error` and above. -/
  errorCount : Nat := 0
  anomalyCount : Nat := 0
  services : List String := []
  serviceCount : Nat := 0
  durationMs : Float := 0
  hasErrors : Bool := false
deriving BEq, Repr

inductive WarningSource where
  | logs
  | metrics
deriving DecidableEq, Repr

structure PartialDataWarning where
  source : WarningSource
  message : String
deriving DecidableEq, Repr

structure FlowContext where
  id : String
  period : Period
  summary : FlowSummary
  timeline : List TimelineEvent
  calls : List (ServiceCall Float)
  rootService : Option String
  rootOperation : Option String
  signals : Signals
  warnings : List PartialDataWarning := []
  isPartial : Bool := false

def firstEarliest {α : Type} (time : α → Instant) : List α → Option α
  | [] => none
  | a :: l => some (l.foldl (fun best b ↦ if time b < time best then b else best) a)

namespace Signals

/-- The earliest span whose parent is not among the spans; if every span has its parent there,
the earliest of all. -/
def rootSpan (s : Signals) : Option SpanRecord :=
  let ids := s.spans.filterMap (·.spanId)
  let roots := s.spans.filter (fun x ↦ !x.parentSpanId.any ids.contains)
  (firstEarliest (·.timestamp) roots).or (firstEarliest (·.timestamp) s.spans)

/-- From the first start of a record to the last end; a flow without records is placed now. There
is no such period if a span ends outside the calendar. -/
def period? (s : Signals) (now : Instant) : Option Period :=
  s.ends?.map (fun ends ↦
    match s.starts, ends with
    | a :: starts, b :: ends =>
      Period.between (starts.foldl Instant.earliest a) (ends.foldl Instant.latest b)
    | _, _ => Period.between now now)

def errorCount (s : Signals) : Nat := s.spans.countP (·.isError) + s.logs.countP (·.isError)

def summary (s : Signals) (flags : List Bool) : FlowSummary where
  totalSpans := s.spans.length
  totalLogs := s.logs.length
  totalMetrics := s.metrics.length
  errorCount := s.errorCount
  anomalyCount := flags.count true
  services := (Dict.ofNames s.services).keys
  serviceCount := (Dict.ofNames s.services).size
  hasErrors := 0 < s.errorCount
  durationMs :=
    match s.timeline flags with
    | [] => 0
    | first :: l => millisSince ((first :: l).getLast (List.cons_ne_nil _ _)).timestamp first.timestamp

end Signals

namespace FlowContext

/-- Puts together what was recorded under an id. There is no context if a span ends outside the
calendar. -/
def assemble? (id : String) (s : Signals) (anomaly : AnomalySettings) (now : Instant) :
    Option FlowContext :=
  let flags := anomaly.detect s.metrics
  (s.period? now).map (fun period ↦
    { id := id
      period := period
      summary := s.summary flags
      timeline := s.timeline flags
      calls := ServiceCall.ofSpans s.spans
      rootService := s.rootSpan.map (·.service)
      rootOperation := s.rootSpan.map (·.name)
      signals := s })

def addWarning (c : FlowContext) (w : PartialDataWarning) : FlowContext :=
  { c with warnings := c.warnings ++ [w], isPartial := true }

end FlowContext

end FlowCorrelation
