import FlowCorrelation.Context.Basic

namespace FlowCorrelation

inductive CauseKind where
  | metricAnomaly
  | spanError
  | logError
  | other
deriving DecidableEq, Repr

namespace CauseKind

def isIncident (k : CauseKind) : Bool := k ≠ .other

def label : CauseKind → String
  | .metricAnomaly => "metric anomaly"
  | .spanError => "span error"
  | .logError => "error log"
  | .other => "event"

def affinity : CauseKind → CauseKind → Float
  | .metricAnomaly, .spanError => 0.9
  | .metricAnomaly, .logError => 0.8
  | .metricAnomaly, .metricAnomaly => 0.5
  | .spanError, .spanError => 0.8
  | .spanError, .logError => 0.9
  | .spanError, .metricAnomaly => 0.3
  | .logError, .spanError => 0.7
  | .logError, .logError => 0.6
  | .logError, .metricAnomaly => 0.3
  | _, _ => 0

end CauseKind

structure CauseEvent where
  timestamp : Instant
  service : String
  kind : CauseKind
  description : String
deriving DecidableEq, Repr

def SpanRecord.failure (s : SpanRecord) : String := s.statusMessage.getD "error status"

def SpanRecord.causeEvents? (s : SpanRecord) : Option (List CauseEvent) :=
  s.endTime?.map (fun stop ↦
    [⟨s.timestamp, s.service, .other, s!"{s.name} started"⟩,
      if s.isError then
        ⟨stop, s.service, .spanError, s!"{s.name} failed ({s.failure})"⟩
      else ⟨stop, s.service, .other, s!"{s.name} finished"⟩])

def LogEntry.causeEvent (l : LogEntry) : CauseEvent where
  timestamp := l.timestamp
  service := l.service
  kind := if l.isError then .logError else .other
  description := "logged \"" ++ Text.trimmed l.body ++ "\""

def MetricPoint.causeEvent (p : MetricPoint) : CauseEvent where
  timestamp := p.timestamp
  service := p.service
  kind := .metricAnomaly
  description := match p.baseline with
    | some b => s!"{p.name} rose to {Numeral.plain p.value} (baseline {Numeral.plain b})"
    | none => s!"{p.name} reached {Numeral.plain p.value}"

def Signals.causeEvents? (s : Signals) (anomaly : AnomalySettings) : Option (List CauseEvent) :=
  (s.spans.mapM SpanRecord.causeEvents?).map (fun pairs ↦
    chronological CauseEvent.timestamp (pairs.flatten ++ s.logs.map LogEntry.causeEvent ++
      (flagged s.metrics (anomaly.detect s.metrics)).map MetricPoint.causeEvent))

end FlowCorrelation
