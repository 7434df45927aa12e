import FlowCorrelation.Numeral.Scalar
import FlowCorrelation.Record.Basic

namespace FlowCorrelation

structure ServiceCall (K : Type) where
  source : String
  target : String
  requests : Nat
  errorRate : K
  meanLatencyMs : K
deriving BEq, Repr

/-- The calls of one service to another while they are counted. -/
structure CallTally (K : Type) where
  requests : Nat
  errors : Nat
  latencyMs : K

namespace ServiceCall

variable {K : Type} [Zero K] [Add K] [Div K] [NatCast K] [Scalar K]

def addCall (t : Option (CallTally K)) (s : SpanRecord) : CallTally K :=
  let t := t.getD ⟨0, 0, 0⟩
  ⟨t.requests + 1, if s.isError then t.errors + 1 else t.errors,
    t.latencyMs + Scalar.ofFloat s.durationMs⟩

def spansById (spans : List SpanRecord) : Dict SpanRecord :=
  Dict.ofList (spans.filterMap (fun s ↦ s.spanId.map (fun id ↦ (id, s))))

def caller? (byId : Dict SpanRecord) (s : SpanRecord) : Option String :=
  ((s.parentSpanId.bind byId.get?).map (·.service)).filter (· ≠ s.service)

def tallySpan (byId : Dict SpanRecord) (d : Dict (Dict (CallTally K))) (s : SpanRecord) :
    Dict (Dict (CallTally K)) :=
  match caller? byId s with
  | none => d
  | some source => d.update source (fun row ↦ (row.getD ∅).update s.service (addCall · s))

def ofTally (source target : String) (t : CallTally K) : ServiceCall K where
  source := source
  target := target
  requests := t.requests
  errorRate := (t.errors : K) / (t.requests : K)
  meanLatencyMs := t.latencyMs / (t.requests : K)

def ofSpans (spans : List SpanRecord) : List (ServiceCall K) :=
  (spans.foldl (tallySpan (spansById spans)) ∅).entries.flatMap (fun (source, row) ↦
    row.entries.map (fun (target, t) ↦ ofTally source target t))

end ServiceCall

end FlowCorrelation
