import FlowCorrelation.FlowStore

namespace FlowCorrelation

inductive StorageFault where
  | unavailable (reason : String)
  | query (reason : String)
  | serialization (reason : String)
  | io (reason : String)
deriving DecidableEq, Repr

def StorageFault.message : StorageFault → String
  | .unavailable reason => s!"Storage unavailable: {reason}"
  | .query reason => s!"Storage query failed: {reason}"
  | .serialization reason => s!"Serialization error: {reason}"
  | .io reason => s!"IO error: {reason}"

inductive Fetch (α : Type) where
  | ends (afterMs : Nat) (records : Except StorageFault (List α))
  | stalls

inductive Fetched (α : Type) where
  | arrived (records : List α)
  | failed (f : StorageFault)
  | late

namespace Fetch

variable {α : Type}

def within (budgetMs : Nat) : Fetch α → Fetched α
  | .ends afterMs records =>
    if afterMs ≤ budgetMs then
      match records with
      | .ok l => .arrived l
      | .error f => .failed f
    else .late
  | .stalls => .late

def waitMs (budgetMs : Nat) : Fetch α → Nat
  | .ends afterMs _ => min afterMs budgetMs
  | .stalls => budgetMs

end Fetch

structure Gateway where
  name : String
  spans : FlowId → Fetch SpanRecord
  logs : FlowId → Fetch LogEntry
  metrics : FlowId → Fetch MetricPoint

def FlowStore.gateway (s : FlowStore) : Gateway where
  name := "memory"
  spans id := .ends 0 (.ok (s.spansOf id))
  logs id := .ends 0 (.ok (s.logsOf id))
  metrics id := .ends 0 (.ok (s.metricsOf id))

end FlowCorrelation
