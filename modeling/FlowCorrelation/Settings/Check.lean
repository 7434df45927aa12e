import FlowCorrelation.FlowId.Basic
import FlowCorrelation.Numeral.Decimal
import FlowCorrelation.Settings.Basic

namespace FlowCorrelation

inductive SettingsDefect where
  | logLevel (level : String)
  | logFormat (format : String)
  | idHead (head : String)
  | noAttributeName
  | noBaggageKey
  | noWindow
  | noQueryTime
  | threshold (value : Float)
  | fewBuckets
  | noDecay
  | noNarratorTime
  | noPort
deriving Repr

def logLevels : List String := ["trace", "debug", "info", "warn", "error"]

def logFormats : List String := ["text", "json"]

def choicesText (l : List String) : String := "[" ++ ", ".intercalate (l.map Text.quoted) ++ "]"

def SettingsDefect.message : SettingsDefect → String
  | .logLevel level => s!"Invalid log level: {level}. Must be one of: {choicesText logLevels}"
  | .logFormat format => s!"Invalid log format: {format}. Must be one of: {choicesText logFormats}"
  | .idHead head => "Invalid id prefix: " ++ Text.quoted head
  | .noAttributeName => "Correlation attribute name cannot be empty"
  | .noBaggageKey => "Baggage key cannot be empty"
  | .noWindow => "Cardinality window cannot be 0"
  | .noQueryTime => "Query timeout cannot be 0"
  | .threshold value => "Confidence threshold must be within [0, 1], got " ++ Numeral.plain value
  | .fewBuckets => "RCA bucket count must be at least 2"
  | .noDecay => "Temporal decay cannot be 0"
  | .noNarratorTime => "Narrator timeout cannot be 0"
  | .noPort => "Web port cannot be 0"

def isIdHead (head : String) : Bool :=
  idDefect? head = none && head.toList.head? ≠ some '-' && head.toList.getLast? ≠ some '-'

namespace Settings

def checks (s : Settings) : List (Bool × SettingsDefect) := [
  (!logLevels.contains (Text.lower s.logging.level), .logLevel s.logging.level),
  (!logFormats.contains (Text.lower s.logging.format), .logFormat s.logging.format),
  (!isIdHead s.ids.head, .idHead s.ids.head),
  (s.ids.attributeName.isEmpty, .noAttributeName),
  (s.ids.fromBaggage && s.ids.baggageKey.isEmpty, .noBaggageKey),
  (s.guard.enabled && s.guard.windowSecs = 0, .noWindow),
  (s.query.timeoutMs = 0, .noQueryTime),
  (!(0 ≤ s.cause.threshold && s.cause.threshold ≤ 1), .threshold s.cause.threshold),
  (s.cause.bucketCount < 2, .fewBuckets),
  (s.cause.decayMs = 0, .noDecay),
  (s.narrator.enabled && s.narrator.timeoutMs = 0, .noNarratorTime),
  (s.web.port = 0, .noPort)]

def defect? (s : Settings) : Option SettingsDefect := (s.checks.find? Prod.fst).map Prod.snd

end Settings

end FlowCorrelation
