import FlowCorrelation.Calendar.Timestamp
import FlowCorrelation.Json.Fields
import FlowCorrelation.Json.Reader
import FlowCorrelation.Json.Writer
import FlowCorrelation.Record.Basic

namespace FlowCorrelation

open Json (Members)

namespace Json

def ofInstant (t : Instant) : Json := .text (Timestamp.render t)

def asInstant? (j : Json) : Option Instant := j.asText?.bind Timestamp.read?

def asAttributes? (j : Json) : Option Attributes := dict? asText? j

end Json

namespace SpanStatus

def name : SpanStatus → String
  | .unset => "unset"
  | .ok => "ok"
  | .error => "error"

def table : List (String × SpanStatus) := [.unset, .ok, .error].map (fun s ↦ (s.name, s))

end SpanStatus

namespace Severity

def name : Severity → String
  | .trace => "trace"
  | .debug => "debug"
  | .info => "info"
  | .warn => "warn"
  | .error => "error"
  | .fatal => "fatal"

def table : List (String × Severity) :=
  [.trace, .debug, .info, .warn, .error, .fatal].map (fun s ↦ (s.name, s))

def label (s : Severity) : String := s.name.toUpper

end Severity

namespace Exemplar

def fieldNames : List String := ["trace_id", "span_id", "filtered_attributes"]

def ofJson? (j : Json) : Option Exemplar := do
  let m ← j.fields? fieldNames
  return {
    traceId := ← m.required "trace_id" Json.asText?
    spanId := ← m.required "span_id" Json.asText?
    filteredAttributes := ← m.withDefault "filtered_attributes" ∅ Json.asAttributes? }

def toJson (e : Exemplar) : Json :=
  .object ([("trace_id", .text e.traceId), ("span_id", .text e.spanId)] ++
    Json.attributesField "filtered_attributes" e.filteredAttributes)

end Exemplar

namespace Envelope

def ofMembers? (m : Members) : Option Envelope := do
  return {
    timestamp := ← m.required "timestamp" Json.asInstant?
    service := ← m.required "service" Json.asText?
    traceId := ← m.optional "trace_id" Json.asText?
    spanId := ← m.optional "span_id" Json.asText?
    baggage := ← m.optional "baggage" Json.asText?
    attributes := ← m.withDefault "attributes" ∅ Json.asAttributes?
    resource := ← m.withDefault "resource" ∅ Json.asAttributes? }

def activeSpan (e : Envelope) : Members :=
  Members.ofOption "trace_id" .text e.traceId ++ Members.ofOption "span_id" .text e.spanId

def leading (e : Envelope) : Members :=
  [("timestamp", Json.ofInstant e.timestamp), ("service", .text e.service)] ++ e.activeSpan

def trailing (e : Envelope) : Members :=
  Members.ofOption "baggage" .text e.baggage ++
    Json.attributesField "attributes" e.attributes ++ Json.attributesField "resource" e.resource

end Envelope

namespace SpanRecord

def fieldNames : List String :=
  ["timestamp", "service", "trace_id", "span_id", "parent_span_id", "name", "duration_ms", "status",
    "status_message", "baggage", "attributes", "resource"]

/-- Reads the fields of a span; `isNothing` tells what may stand beside the name of a status. -/
def ofMembers? (isNothing : Json → Bool) (m : Members) : Option SpanRecord := do
  return {
    toEnvelope := ← Envelope.ofMembers? m
    parentSpanId := ← m.optional "parent_span_id" Json.asText?
    name := ← m.required "name" Json.asText?
    durationMs := ← m.withDefault "duration_ms" 0 Json.asFloat?
    status := ← m.withDefault "status" .unset (Json.choiceWith? isNothing SpanStatus.table)
    statusMessage := ← m.optional "status_message" Json.asText? }

def ofJson? (j : Json) : Option SpanRecord :=
  (j.fields? fieldNames).bind (ofMembers? Json.isNull)

def members (s : SpanRecord) : Members :=
  s.leading ++ Members.ofOption "parent_span_id" .text s.parentSpanId ++
    [("name", .text s.name), ("duration_ms", Json.ofFloat s.durationMs),
      ("status", .text s.status.name)] ++
    Members.ofOption "status_message" .text s.statusMessage ++ s.trailing

def toJson (s : SpanRecord) : Json := .object s.members

end SpanRecord

namespace LogEntry

def fieldNames : List String :=
  ["timestamp", "service", "trace_id", "span_id", "severity", "body", "baggage", "attributes", "resource"]

/-- Reads the fields of a log entry; `isNothing` tells what may stand beside the name of a
severity. -/
def ofMembers? (isNothing : Json → Bool) (m : Members) : Option LogEntry := do
  return {
    toEnvelope := ← Envelope.ofMembers? m
    severity := ← m.withDefault "severity" .info (Json.choiceWith? isNothing Severity.table)
    body := ← m.withDefault "body" "" Json.asText? }

def ofJson? (j : Json) : Option LogEntry :=
  (j.fields? fieldNames).bind (ofMembers? Json.isNull)

def members (l : LogEntry) : Members :=
  l.leading ++ [("severity", .text l.severity.name), ("body", .text l.body)] ++ l.trailing

def toJson (l : LogEntry) : Json := .object l.members

def jsonBody? (l : LogEntry) : Option Members :=
  match Text.trimLeft l.body.toList with
  | '\x7b' :: r => (Json.readChars? ('\x7b' :: r)).bind (fun j ↦ j.collapsed.asMembers?)
  | _ => none

end LogEntry

namespace MetricPoint

def fieldNames : List String :=
  ["timestamp", "service", "name", "value", "baseline", "anomaly_score", "trace_id", "span_id",
    "exemplar", "baggage", "attributes", "resource"]

def ofMembers? (m : Members) : Option MetricPoint := do
  return {
    toEnvelope := ← Envelope.ofMembers? m
    name := ← m.required "name" Json.asText?
    value := ← m.required "value" Json.asFloat?
    baseline := ← m.optional "baseline" Json.asFloat?
    anomalyScore := ← m.optional "anomaly_score" Json.asFloat?
    exemplar := ← m.optional "exemplar" Exemplar.ofJson? }

def ofJson? (j : Json) : Option MetricPoint := (j.fields? fieldNames).bind ofMembers?

def members (p : MetricPoint) : Members :=
  [("timestamp", Json.ofInstant p.timestamp), ("service", .text p.service), ("name", .text p.name),
    ("value", Json.ofFloat p.value)] ++
    Members.ofOption "baseline" Json.ofFloat p.baseline ++
    Members.ofOption "anomaly_score" Json.ofFloat p.anomalyScore ++ p.activeSpan ++
    Members.ofOption "exemplar" Exemplar.toJson p.exemplar ++ p.trailing

def toJson (p : MetricPoint) : Json := .object p.members

end MetricPoint

def RecordKind.name : RecordKind → String
  | .span => "span"
  | .log => "log"
  | .metric => "metric"

namespace Record

/-- Reads the record of a kind from its fields, in which an empty object may stand beside the name
of a status or a severity. -/
def ofKind? (kind : String) (j : Json) : Option Record :=
  if kind = "span" then
    ((j.fields? SpanRecord.fieldNames).bind (SpanRecord.ofMembers? Json.isBare)).map .span
  else if kind = "log" then
    ((j.fields? LogEntry.fieldNames).bind (LogEntry.ofMembers? Json.isBare)).map .log
  else if kind = "metric" then (MetricPoint.ofJson? j).map .metric
  else none

def ofJson? : Json → Option Record
  | .object m =>
    if Members.unique m ["type"] then
      (Members.required m "type" Json.asText?).bind (fun kind ↦
        ofKind? kind (.object (m.filter (fun e ↦ e.1 ≠ "type"))))
    else none
  | .list (.text kind :: l) => ofKind? kind (.list l)
  | _ => none

def toJson : Record → Json
  | .span s => .object (("type", .text "span") :: s.members)
  | .log l => .object (("type", .text "log") :: l.members)
  | .metric m => .object (("type", .text "metric") :: m.members)

def read? (s : String) : Option Record := (Json.read? s).bind ofJson?

def render (r : Record) : String := r.toJson.render

end Record

end FlowCorrelation
