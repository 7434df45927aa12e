import FlowCorrelation.Dict

namespace FlowCorrelation

structure LogSettings where
  level : String := "info"
  format : String := "text"
deriving BEq, Repr

structure IdSettings where
  /-- The head of ids that are stamped here. -/
  head : String := "olly"
  attributeName : String := "correlation_id"
  baggageKey : String := "correlation_id"
  /-- Headers that may hold the id, in the order in which they are asked. -/
  headers : List String := ["X-Correlation-ID", "X-Request-ID", "correlation-id", "request-id"]
  fromBaggage : Bool := true
  fromTrace : Bool := true
  generate : Bool := true
  toResource : Bool := false
  fromBody : Bool := true
deriving BEq, Repr

structure GuardSettings where
  enabled : Bool := true
  maxValues : Nat := 10000
  windowSecs : Nat := 3600
  sweepSecs : Nat := 60
  bounded : List String := ["http.route", "http.target", "url.path", "http.url", "user.id"]
  limits : Dict Nat := ∅
  dropped : List String := ["password", "token", "secret", "api_key"]
  normalizeUrls : Bool := true
deriving BEq, Repr

structure AnomalySettings where
  /-- A score from here on is anomalous. -/
  scoreThreshold : Float := 0.7
  /-- A greater share of the baseline is anomalous as a distance from it. -/
  baselineDeviation : Float := 0.5
  /-- So many standard deviations from the mean of its series make a point anomalous. -/
  zThreshold : Float := 3.0
  /-- Shorter series are not judged by their mean. -/
  minSeriesLength : Nat := 5
deriving BEq, Repr

structure QuerySettings where
  timeoutMs : Nat := 5000
  cacheTtlSecs : Nat := 300
  cacheMaxEntries : Nat := 10000
deriving BEq, Repr

structure CauseSettings where
  bucketCount : Nat := 12
  threshold : Float := 0.5
  causalWeight : Float := 0.6
  chainWeight : Float := 0.4
  maxLookbackMs : Nat := 30000
  decayMs : Nat := 5000
  /-- The weight of a link between services that do not call each other. -/
  unrelatedWeight : Float := 0.1
deriving BEq, Repr

structure NarratorSettings where
  enabled : Bool := false
  endpoint : String := "https://api.openai.com/v1/chat/completions"
  model : String := "gpt-4o-mini"
  apiKey : Option String := none
  timeoutMs : Nat := 3000
  maxTokens : Nat := 400
deriving BEq, Repr

structure StoreSettings where
  /-- How long records are kept; zero keeps them for ever. -/
  retentionSecs : Nat := 86400
  dataFiles : List String := []
deriving BEq, Repr

structure WebSettings where
  enabled : Bool := true
  host : String := "127.0.0.1"
  port : Nat := 8080
deriving BEq, Repr

structure Settings where
  logging : LogSettings := {}
  ids : IdSettings := {}
  guard : GuardSettings := {}
  anomaly : AnomalySettings := {}
  query : QuerySettings := {}
  cause : CauseSettings := {}
  narrator : NarratorSettings := {}
  store : StoreSettings := {}
  web : WebSettings := {}
deriving BEq, Repr

end FlowCorrelation
