import FlowCorrelation.Json.Fields
import FlowCorrelation.Settings.Basic

namespace FlowCorrelation

open Json (Members)

namespace Json

def texts? : Json → Option (List String) := list? asText?

def ofTexts (l : List String) : Json := .list (l.map .text)

end Json

namespace LogSettings

def fieldNames : List String := ["log_level", "log_format"]

def ofJson? (j : Json) : Option LogSettings := do
  let d : LogSettings := {}
  let m ← j.fields? fieldNames
  return {
    level := ← m.withDefault "log_level" d.level Json.asText?
    format := ← m.withDefault "log_format" d.format Json.asText? }

def toJson (s : LogSettings) : Json :=
  .object [("log_level", .text s.level), ("log_format", .text s.format)]

end LogSettings

namespace IdSettings

def fieldNames : List String :=
  ["id_prefix", "attribute_name", "baggage_key", "header_names", "extract_from_baggage",
    "derive_from_trace_id", "generate_if_missing", "propagate_to_resource", "search_log_body"]

def ofJson? (j : Json) : Option IdSettings := do
  let d : IdSettings := {}
  let m ← j.fields? fieldNames
  return {
    head := ← m.withDefault "id_prefix" d.head Json.asText?
    attributeName := ← m.withDefault "attribute_name" d.attributeName Json.asText?
    baggageKey := ← m.withDefault "baggage_key" d.baggageKey Json.asText?
    headers := ← m.withDefault "header_names" d.headers Json.texts?
    fromBaggage := ← m.withDefault "extract_from_baggage" d.fromBaggage Json.asBool?
    fromTrace := ← m.withDefault "derive_from_trace_id" d.fromTrace Json.asBool?
    generate := ← m.withDefault "generate_if_missing" d.generate Json.asBool?
    toResource := ← m.withDefault "propagate_to_resource" d.toResource Json.asBool?
    fromBody := ← m.withDefault "search_log_body" d.fromBody Json.asBool? }

def toJson (s : IdSettings) : Json :=
  .object [
    ("id_prefix", .text s.head), ("attribute_name", .text s.attributeName),
    ("baggage_key", .text s.baggageKey), ("header_names", Json.ofTexts s.headers),
    ("extract_from_baggage", .bool s.fromBaggage), ("derive_from_trace_id", .bool s.fromTrace),
    ("generate_if_missing", .bool s.generate), ("propagate_to_resource", .bool s.toResource),
    ("search_log_body", .bool s.fromBody)]

end IdSettings

namespace GuardSettings

def fieldNames : List String :=
  ["enabled", "max_values_per_attribute", "window_secs", "sweep_interval_secs", "bounded_attributes",
    "limits", "drop_attributes", "normalize_urls"]

def ofJson? (j : Json) : Option GuardSettings := do
  let d : GuardSettings := {}
  let m ← j.fields? fieldNames
  return {
    enabled := ← m.withDefault "enabled" d.enabled Json.asBool?
    maxValues := ← m.withDefault "max_values_per_attribute" d.maxValues (Json.asNat? 64)
    windowSecs := ← m.withDefault "window_secs" d.windowSecs (Json.asNat? 64)
    sweepSecs := ← m.withDefault "sweep_interval_secs" d.sweepSecs (Json.asNat? 64)
    bounded := ← m.withDefault "bounded_attributes" d.bounded Json.texts?
    limits := ← m.withDefault "limits" d.limits (Json.dict? (Json.asNat? 64))
    dropped := ← m.withDefault "drop_attributes" d.dropped Json.texts?
    normalizeUrls := ← m.withDefault "normalize_urls" d.normalizeUrls Json.asBool? }

def toJson (s : GuardSettings) : Json :=
  .object [
    ("enabled", .bool s.enabled), ("max_values_per_attribute", .ofNat s.maxValues),
    ("window_secs", .ofNat s.windowSecs), ("sweep_interval_secs", .ofNat s.sweepSecs),
    ("bounded_attributes", Json.ofTexts s.bounded), ("limits", Json.ofDict .ofNat s.limits),
    ("drop_attributes", Json.ofTexts s.dropped), ("normalize_urls", .bool s.normalizeUrls)]

end GuardSettings

namespace AnomalySettings

def fieldNames : List String :=
  ["score_threshold", "baseline_deviation", "z_threshold", "min_series_len"]

def ofJson? (j : Json) : Option AnomalySettings := do
  let d : AnomalySettings := {}
  let m ← j.fields? fieldNames
  return {
    scoreThreshold := ← m.withDefault "score_threshold" d.scoreThreshold Json.asFloat?
    baselineDeviation := ← m.withDefault "baseline_deviation" d.baselineDeviation Json.asFloat?
    zThreshold := ← m.withDefault "z_threshold" d.zThreshold Json.asFloat?
    minSeriesLength := ← m.withDefault "min_series_len" d.minSeriesLength (Json.asNat? 64) }

def toJson (s : AnomalySettings) : Json :=
  .object [
    ("score_threshold", .real s.scoreThreshold),
    ("baseline_deviation", .real s.baselineDeviation),
    ("z_threshold", .real s.zThreshold), ("min_series_len", .ofNat s.minSeriesLength)]

end AnomalySettings

namespace QuerySettings

def fieldNames : List String := ["timeout_ms", "cache_ttl_secs", "cache_max_entries"]

def ofJson? (j : Json) : Option QuerySettings := do
  let d : QuerySettings := {}
  let m ← j.fields? fieldNames
  return {
    timeoutMs := ← m.withDefault "timeout_ms" d.timeoutMs (Json.asNat? 64)
    cacheTtlSecs := ← m.withDefault "cache_ttl_secs" d.cacheTtlSecs (Json.asNat? 64)
    cacheMaxEntries := ← m.withDefault "cache_max_entries" d.cacheMaxEntries (Json.asNat? 64) }

def toJson (s : QuerySettings) : Json :=
  .object [
    ("timeout_ms", .ofNat s.timeoutMs), ("cache_ttl_secs", .ofNat s.cacheTtlSecs),
    ("cache_max_entries", .ofNat s.cacheMaxEntries)]

end QuerySettings

namespace CauseSettings

def fieldNames : List String :=
  ["bucket_count", "confidence_threshold", "causal_weight", "chain_weight", "max_lookback_ms",
    "temporal_decay_ms", "dependency_epsilon"]

def ofJson? (j : Json) : Option CauseSettings := do
  let d : CauseSettings := {}
  let m ← j.fields? fieldNames
  return {
    bucketCount := ← m.withDefault "bucket_count" d.bucketCount (Json.asNat? 64)
    threshold := ← m.withDefault "confidence_threshold" d.threshold Json.asFloat?
    causalWeight := ← m.withDefault "causal_weight" d.causalWeight Json.asFloat?
    chainWeight := ← m.withDefault "chain_weight" d.chainWeight Json.asFloat?
    maxLookbackMs := ← m.withDefault "max_lookback_ms" d.maxLookbackMs (Json.asNat? 64)
    decayMs := ← m.withDefault "temporal_decay_ms" d.decayMs (Json.asNat? 64)
    unrelatedWeight := ← m.withDefault "dependency_epsilon" d.unrelatedWeight Json.asFloat? }

def toJson (s : CauseSettings) : Json :=
  .object [
    ("bucket_count", .ofNat s.bucketCount), ("confidence_threshold", .real s.threshold),
    ("causal_weight", .real s.causalWeight), ("chain_weight", .real s.chainWeight),
    ("max_lookback_ms", .ofNat s.maxLookbackMs), ("temporal_decay_ms", .ofNat s.decayMs),
    ("dependency_epsilon", .real s.unrelatedWeight)]

end CauseSettings

namespace NarratorSettings

def fieldNames : List String :=
  ["enabled", "endpoint", "model", "api_key", "timeout_ms", "max_tokens"]

def ofJson? (j : Json) : Option NarratorSettings := do
  let d : NarratorSettings := {}
  let m ← j.fields? fieldNames
  return {
    enabled := ← m.withDefault "enabled" d.enabled Json.asBool?
    endpoint := ← m.withDefault "endpoint" d.endpoint Json.asText?
    model := ← m.withDefault "model" d.model Json.asText?
    apiKey := ← m.optional "api_key" Json.asText?
    timeoutMs := ← m.withDefault "timeout_ms" d.timeoutMs (Json.asNat? 64)
    maxTokens := ← m.withDefault "max_tokens" d.maxTokens (Json.asNat? 32) }

def toJson (s : NarratorSettings) : Json :=
  .object [
    ("enabled", .bool s.enabled), ("endpoint", .text s.endpoint), ("model", .text s.model),
    ("api_key", .ofOption .text s.apiKey), ("timeout_ms", .ofNat s.timeoutMs),
    ("max_tokens", .ofNat s.maxTokens)]

end NarratorSettings

namespace StoreSettings

def fieldNames : List String := ["retention_secs", "data_files"]

def ofJson? (j : Json) : Option StoreSettings := do
  let d : StoreSettings := {}
  let m ← j.fields? fieldNames
  return {
    retentionSecs := ← m.withDefault "retention_secs" d.retentionSecs (Json.asNat? 64)
    dataFiles := ← m.withDefault "data_files" d.dataFiles Json.texts? }

def toJson (s : StoreSettings) : Json :=
  .object [("retention_secs", .ofNat s.retentionSecs), ("data_files", Json.ofTexts s.dataFiles)]

end StoreSettings

namespace WebSettings

def fieldNames : List String := ["enabled", "host", "port"]

def ofJson? (j : Json) : Option WebSettings := do
  let d : WebSettings := {}
  let m ← j.fields? fieldNames
  return {
    enabled := ← m.withDefault "enabled" d.enabled Json.asBool?
    host := ← m.withDefault "host" d.host Json.asText?
    port := ← m.withDefault "port" d.port (Json.asNat? 16) }

def toJson (s : WebSettings) : Json :=
  .object [("enabled", .bool s.enabled), ("host", .text s.host), ("port", .ofNat s.port)]

end WebSettings

namespace Settings

def sections : List (String × List String) := [
  ("server", LogSettings.fieldNames), ("correlation", IdSettings.fieldNames),
  ("cardinality", GuardSettings.fieldNames), ("anomaly", AnomalySettings.fieldNames),
  ("query", QuerySettings.fieldNames), ("rca", CauseSettings.fieldNames),
  ("narrator", NarratorSettings.fieldNames), ("storage", StoreSettings.fieldNames),
  ("web", WebSettings.fieldNames)]

def fieldNames : List String := sections.map Prod.fst

def ofJson? (j : Json) : Option Settings := do
  let m ← j.fields? fieldNames
  return {
    logging := ← m.withDefault "server" {} LogSettings.ofJson?
    ids := ← m.withDefault "correlation" {} IdSettings.ofJson?
    guard := ← m.withDefault "cardinality" {} GuardSettings.ofJson?
    anomaly := ← m.withDefault "anomaly" {} AnomalySettings.ofJson?
    query := ← m.withDefault "query" {} QuerySettings.ofJson?
    cause := ← m.withDefault "rca" {} CauseSettings.ofJson?
    narrator := ← m.withDefault "narrator" {} NarratorSettings.ofJson?
    store := ← m.withDefault "storage" {} StoreSettings.ofJson?
    web := ← m.withDefault "web" {} WebSettings.ofJson? }

def toJson (s : Settings) : Json :=
  .object [
    ("server", s.logging.toJson), ("correlation", s.ids.toJson), ("cardinality", s.guard.toJson),
    ("anomaly", s.anomaly.toJson), ("query", s.query.toJson), ("rca", s.cause.toJson),
    ("narrator", s.narrator.toJson), ("storage", s.store.toJson), ("web", s.web.toJson)]

end Settings

end FlowCorrelation
