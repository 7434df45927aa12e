import FlowCorrelation.Calendar.Instant
import FlowCorrelation.Dict
import FlowCorrelation.Numeral.Double

namespace FlowCorrelation

abbrev Attributes := Dict String

structure Envelope where
  timestamp : Instant
  service : String
  traceId : Option String := none
  spanId : Option String := none
  baggage : Option String := none
  attributes : Attributes := ∅
  resource : Attributes := ∅
deriving BEq, Repr

inductive SpanStatus where
  | unset
  | ok
  | error
deriving DecidableEq, Repr

structure SpanRecord extends Envelope where
  parentSpanId : Option String := none
  name : String
  durationMs : Float := 0
  status : SpanStatus := .unset
  statusMessage : Option String := none
deriving BEq, Repr

inductive Severity where
  | trace
  | debug
  | info
  | warn
  | error
  | fatal
deriving DecidableEq, Repr

structure LogEntry extends Envelope where
  severity : Severity := .info
  body : String := ""
deriving BEq, Repr

structure Exemplar where
  traceId : String
  spanId : String
  filteredAttributes : Attributes := ∅
deriving BEq, Repr

structure MetricPoint extends Envelope where
  name : String
  value : Float
  baseline : Option Float := none
  anomalyScore : Option Float := none
  exemplar : Option Exemplar := none
deriving BEq, Repr

inductive Record where
  | span (s : SpanRecord)
  | log (l : LogEntry)
  | metric (m : MetricPoint)
deriving BEq, Repr

inductive RecordKind where
  | span
  | log
  | metric
deriving DecidableEq, Repr

def SpanRecord.isError (s : SpanRecord) : Bool := s.status = .error

/-- The integer nearest to a double, clamped to 64 bits; no number counts as zero. -/
def clampedRound (x : Float) : Int :=
  match Numeral.Double.ofFloat x with
  | .notANumber => 0
  | .infinite negative => if negative then Word.least else Word.greatest
  | .finite negative m q => Word.clamp (Numeral.roundAway negative m q)

def SpanRecord.durationMicros (s : SpanRecord) : Int := clampedRound (s.durationMs * 1000)

def SpanRecord.endTime? (s : SpanRecord) : Option Instant :=
  s.timestamp.add? (s.durationMicros * 1000)

def Severity.rank : Severity → Nat
  | .trace => 0
  | .debug => 1
  | .info => 2
  | .warn => 3
  | .error => 4
  | .fatal => 5

def LogEntry.isError (l : LogEntry) : Bool := Severity.error.rank ≤ l.severity.rank

def MetricPoint.hasActiveSpan (m : MetricPoint) : Bool :=
  m.traceId.any (· ≠ "") && m.spanId.any (· ≠ "")

namespace Record

def envelope : Record → Envelope
  | .span s => s.toEnvelope
  | .log l => l.toEnvelope
  | .metric m => m.toEnvelope

def withEnvelope (r : Record) (e : Envelope) : Record :=
  match r with
  | .span s => .span { s with toEnvelope := e }
  | .log l => .log { l with toEnvelope := e }
  | .metric m => .metric { m with toEnvelope := e }

def kind : Record → RecordKind
  | .span _ => .span
  | .log _ => .log
  | .metric _ => .metric

def exemplar : Record → Option Exemplar
  | .metric m => m.exemplar
  | _ => none

def attributes (r : Record) : Attributes := r.envelope.attributes

def resource (r : Record) : Attributes := r.envelope.resource

def timestamp (r : Record) : Instant := r.envelope.timestamp

def withAttributes (r : Record) (a : Attributes) : Record :=
  r.withEnvelope { r.envelope with attributes := a }

def withResource (r : Record) (a : Attributes) : Record :=
  r.withEnvelope { r.envelope with resource := a }

@[simp] theorem envelope_withEnvelope (r : Record) (e : Envelope) : (r.withEnvelope e).envelope = e := by
  cases r <;> rfl

@[simp] theorem kind_withEnvelope (r : Record) (e : Envelope) : (r.withEnvelope e).kind = r.kind := by
  cases r <;> rfl

@[simp] theorem exemplar_withEnvelope (r : Record) (e : Envelope) :
    (r.withEnvelope e).exemplar = r.exemplar := by
  cases r <;> rfl

@[simp] theorem withEnvelope_envelope (r : Record) : r.withEnvelope r.envelope = r := by
  cases r <;> rfl

@[simp] theorem attributes_withAttributes (r : Record) (a : Attributes) :
    (r.withAttributes a).attributes = a := by
  cases r <;> rfl

@[simp] theorem resource_withAttributes (r : Record) (a : Attributes) :
    (r.withAttributes a).resource = r.resource := by
  cases r <;> rfl

theorem withAttributes_attributes (r : Record) : r.withAttributes r.attributes = r := by
  cases r <;> rfl

theorem withResource_resource (r : Record) : r.withResource r.resource = r := by
  cases r <;> rfl

end Record

end FlowCorrelation
