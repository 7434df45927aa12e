import FlowCorrelation.Context.Basic
import FlowCorrelation.Record.Json

namespace FlowCorrelation

open Json (Members)

namespace Period

def ofJson? (j : Json) : Option Period := do
  let m ← j.fields? ["start", "end"]
  let start ← m.required "start" Json.asInstant?
  let stop ← m.required "end" Json.asInstant?
  if h : start ≤ stop then some ⟨start, stop, h⟩ else none

def toJson (p : Period) : Json :=
  .object [("start", .ofInstant p.start), ("end", .ofInstant p.stop)]

end Period

namespace EventKind

def name : EventKind → String
  | .span => "span"
  | .log => "log"
  | .metricAnomaly => "metric_anomaly"

def table : List (String × EventKind) := [.span, .log, .metricAnomaly].map (fun k ↦ (k.name, k))

end EventKind

namespace TimelineEvent

def fieldNames : List String :=
  ["timestamp", "kind", "service", "description", "duration_ms", "is_error", "trace_id", "span_id",
    "metric"]

def ofJson? (j : Json) : Option TimelineEvent := do
  let m ← j.fields? fieldNames
  return {
    timestamp := ← m.required "timestamp" Json.asInstant?
    kind := ← m.required "kind" (Json.choice? EventKind.table)
    service := ← m.required "service" Json.asText?
    description := ← m.required "description" Json.asText?
    durationMs := ← m.optional "duration_ms" Json.asFloat?
    isError := ← m.required "is_error" Json.asBool?
    traceId := ← m.optional "trace_id" Json.asText?
    spanId := ← m.optional "span_id" Json.asText?
    metric := ← m.optional "metric" Json.asText? }

def toJson (e : TimelineEvent) : Json :=
  .object ([("timestamp", Json.ofInstant e.timestamp), ("kind", .text e.kind.name),
      ("service", .text e.service), ("description", .text e.description)] ++
    Members.ofOption "duration_ms" Json.ofFloat e.durationMs ++ [("is_error", .bool e.isError)] ++
    Members.ofOption "trace_id" .text e.traceId ++ Members.ofOption "span_id" .text e.spanId ++
    Members.ofOption "metric" .text e.metric)

end TimelineEvent

namespace ServiceCall

def fieldNames : List String :=
  ["source", "target", "request_count", "error_rate", "avg_latency_ms"]

def ofJson? (j : Json) : Option (ServiceCall Float) := do
  let m ← j.fields? fieldNames
  return {
    source := ← m.required "source" Json.asText?
    target := ← m.required "target" Json.asText?
    requests := ← m.required "request_count" (Json.asNat? 64)
    errorRate := ← m.required "error_rate" Json.asFloat?
    meanLatencyMs := ← m.required "avg_latency_ms" Json.asFloat? }

def toJson (c : ServiceCall Float) : Json :=
  .object [("source", .text c.source), ("target", .text c.target),
    ("request_count", .ofNat c.requests), ("error_rate", .ofFloat c.errorRate),
    ("avg_latency_ms", .ofFloat c.meanLatencyMs)]

end ServiceCall

namespace FlowSummary

def fieldNames : List String :=
  ["total_spans", "total_logs", "total_metrics", "error_count", "anomaly_count", "service_count",
    "services", "duration_ms", "has_errors"]

def ofJson? (j : Json) : Option FlowSummary := do
  let m ← j.fields? fieldNames
  return {
    totalSpans := ← m.required "total_spans" (Json.asNat? 64)
    totalLogs := ← m.required "total_logs" (Json.asNat? 64)
    totalMetrics := ← m.required "total_metrics" (Json.asNat? 64)
    errorCount := ← m.required "error_count" (Json.asNat? 64)
    anomalyCount := ← m.required "anomaly_count" (Json.asNat? 64)
    services := ← m.required "services" (Json.list? Json.asText?)
    serviceCount := ← m.required "service_count" (Json.asNat? 64)
    durationMs := ← m.required "duration_ms" Json.asFloat?
    hasErrors := ← m.required "has_errors" Json.asBool? }

def toJson (s : FlowSummary) : Json :=
  .object [("total_spans", .ofNat s.totalSpans), ("total_logs", .ofNat s.totalLogs),
    ("total_metrics", .ofNat s.totalMetrics), ("error_count", .ofNat s.errorCount),
    ("anomaly_count", .ofNat s.anomalyCount), ("service_count", .ofNat s.serviceCount),
    ("services", .list (s.services.map .text)), ("duration_ms", .ofFloat s.durationMs),
    ("has_errors", .bool s.hasErrors)]

end FlowSummary

namespace WarningSource

def name : WarningSource → String
  | .logs => "logs"
  | .metrics => "metrics"

def table : List (String × WarningSource) := [.logs, .metrics].map (fun s ↦ (s.name, s))

end WarningSource

namespace PartialDataWarning

def ofJson? (j : Json) : Option PartialDataWarning := do
  let m ← j.fields? ["source", "message"]
  return {
    source := ← m.required "source" (Json.choice? WarningSource.table)
    message := ← m.required "message" Json.asText? }

def toJson (w : PartialDataWarning) : Json :=
  .object [("source", .text w.source.name), ("message", .text w.message)]

end PartialDataWarning

namespace Json.Members

def listOrEmpty {α : Type} (m : Members) (name : String) (read : Json → Option α) :
    Option (List α) :=
  m.withDefault name [] (Json.list? read)

def ofList {α : Type} (name : String) (write : α → Json) (l : List α) : Members :=
  if l.isEmpty then [] else [(name, .list (l.map write))]

end Json.Members

namespace FlowContext

def fieldNames : List String :=
  ["correlation_id", "time_range", "summary", "timeline", "dependencies", "root_service",
    "root_operation", "spans", "logs", "metrics", "warnings", "partial"]

def ofJson? (j : Json) : Option FlowContext := do
  let m ← j.fields? fieldNames
  return {
    id := ← m.required "correlation_id" Json.asText?
    period := ← m.required "time_range" Period.ofJson?
    summary := ← m.required "summary" FlowSummary.ofJson?
    timeline := ← m.required "timeline" (Json.list? TimelineEvent.ofJson?)
    calls := ← m.required "dependencies" (Json.list? ServiceCall.ofJson?)
    rootService := ← m.optional "root_service" Json.asText?
    rootOperation := ← m.optional "root_operation" Json.asText?
    signals := {
      spans := ← m.listOrEmpty "spans" SpanRecord.ofJson?
      logs := ← m.listOrEmpty "logs" LogEntry.ofJson?
      metrics := ← m.listOrEmpty "metrics" MetricPoint.ofJson? }
    warnings := ← m.listOrEmpty "warnings" PartialDataWarning.ofJson?
    isPartial := ← m.withDefault "partial" false Json.asBool? }

def toJson (c : FlowContext) : Json :=
  .object ([("correlation_id", .text c.id), ("time_range", c.period.toJson),
      ("summary", c.summary.toJson), ("timeline", .list (c.timeline.map TimelineEvent.toJson)),
      ("dependencies", .list (c.calls.map ServiceCall.toJson))] ++
    Members.ofOption "root_service" .text c.rootService ++
    Members.ofOption "root_operation" .text c.rootOperation ++
    Members.ofList "spans" SpanRecord.toJson c.signals.spans ++
    Members.ofList "logs" LogEntry.toJson c.signals.logs ++
    Members.ofList "metrics" MetricPoint.toJson c.signals.metrics ++
    Members.ofList "warnings" PartialDataWarning.toJson c.warnings ++
    [("partial", .bool c.isPartial)])

end FlowContext

end FlowCorrelation
