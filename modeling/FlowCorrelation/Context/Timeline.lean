import FlowCorrelation.Calendar.Chronology
import FlowCorrelation.Numeral.Decimal
import FlowCorrelation.Record.Json
import FlowCorrelation.Text.Blank

namespace FlowCorrelation

inductive EventKind where
  | span
  | log
  | metricAnomaly
deriving DecidableEq, Repr

structure TimelineEvent where
  timestamp : Instant
  kind : EventKind
  service : String
  description : String
  durationMs : Option Float := none
  isError : Bool := false
  traceId : Option String := none
  spanId : Option String := none
  metric : Option String := none
deriving BEq, Repr

structure Signals where
  spans : List SpanRecord := []
  logs : List LogEntry := []
  metrics : List MetricPoint := []
deriving BEq, Repr

def maxBodyLength : Nat := 200

def shortened (body : String) : String :=
  let l := Text.trim body.toList
  if l.length ≤ maxBodyLength then String.ofList l
  else String.ofList (l.take maxBodyLength ++ "...".toList)

def SpanRecord.timelineEvent (s : SpanRecord) : TimelineEvent where
  timestamp := s.timestamp
  kind := .span
  service := s.service
  description := match s.statusMessage with
    | some message => if s.isError then s!"{s.name} failed: {message}" else s.name
    | none => s.name
  durationMs := some s.durationMs
  isError := s.isError
  traceId := s.traceId
  spanId := s.spanId

def LogEntry.timelineEvent (l : LogEntry) : TimelineEvent where
  timestamp := l.timestamp
  kind := .log
  service := l.service
  description := s!"[{l.severity.label}] {shortened l.body}"
  isError := l.isError
  traceId := l.traceId
  spanId := l.spanId

def MetricPoint.timelineEvent (p : MetricPoint) : TimelineEvent where
  timestamp := p.timestamp
  kind := .metricAnomaly
  service := p.service
  description := match p.baseline with
    | some b => s!"{p.name} = {Numeral.plain p.value} (baseline {Numeral.plain b})"
    | none => s!"{p.name} = {Numeral.plain p.value}"
  traceId := p.traceId
  spanId := p.spanId
  metric := some p.name

def flagged {α : Type} (l : List α) (flags : List Bool) : List α :=
  (l.zip flags).filterMap (fun (a, flag) ↦ if flag then some a else none)

namespace Signals

def events (s : Signals) (flags : List Bool) : List TimelineEvent :=
  s.spans.map SpanRecord.timelineEvent ++ s.logs.map LogEntry.timelineEvent ++
    (flagged s.metrics flags).map MetricPoint.timelineEvent

/-- The timeline; each flag says whether the metric point in its place is anomalous. -/
def timeline (s : Signals) (flags : List Bool) : List TimelineEvent :=
  chronological TimelineEvent.timestamp (s.events flags)

def starts (s : Signals) : List Instant :=
  s.spans.map (·.timestamp) ++ s.logs.map (·.timestamp) ++ s.metrics.map (·.timestamp)

def ends? (s : Signals) : Option (List Instant) :=
  (s.spans.mapM SpanRecord.endTime?).map (fun l ↦
    l ++ s.logs.map (·.timestamp) ++ s.metrics.map (·.timestamp))

def services (s : Signals) : List String :=
  s.spans.map (·.service) ++ s.logs.map (·.service) ++ s.metrics.map (·.service)

end Signals

end FlowCorrelation
