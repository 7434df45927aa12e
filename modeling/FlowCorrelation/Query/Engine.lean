import FlowCorrelation.Calendar.SpanText
import FlowCorrelation.Context.Basic
import FlowCorrelation.Counters
import FlowCorrelation.Query.Cache
import FlowCorrelation.Query.Gateway

namespace FlowCorrelation

inductive QueryFault where
  | invalid (d : IdDefect)
  | timeout (budgetMs : Nat)
  | storage (f : StorageFault)
deriving DecidableEq, Repr

namespace QueryFault

def message : QueryFault → String
  | .invalid d => s!"Invalid correlation id: {d.message}"
  | .timeout budgetMs => s!"Trace query exceeded {budgetMs}ms budget"
  | .storage f => s!"Trace query failed: {f.message}"

def isRetryable : QueryFault → Bool
  | .timeout _ => true
  | .storage (.unavailable _) => true
  | _ => false

end QueryFault

structure QueryEngine where
  head : String := "olly"
  timeoutMs : Nat
  anomaly : AnomalySettings := {}
  cache : TimedCache FlowContext
  counters : QueryCounters := {}

/-- The engine after a query, the answer, what was said, and how long it took. There is no answer
where a span ends outside the calendar. -/
structure QueryAnswer (α : Type) where
  engine : QueryEngine
  result : Option (Except QueryFault α)
  notices : List Notice := []
  elapsedMs : Nat := 0

structure Gathered where
  spans : Fetched SpanRecord
  logs : Fetched LogEntry
  metrics : Fetched MetricPoint
  elapsedMs : Nat

/-- A list that may have been replaced by a warning. -/
structure Degraded (α : Type) where
  records : List α
  warning : Option PartialDataWarning := none
  late : Bool := false

def WarningSource.label : WarningSource → String
  | .logs => "Logs"
  | .metrics => "Metrics"

namespace Fetched

variable {α : Type}

def degrade (source : WarningSource) (budgetMs : Nat) : Fetched α → Degraded α
  | .arrived l => { records := l }
  | .failed f =>
    { records := [], warning := some ⟨source, s!"{source.label} query failed: {f.message}"⟩ }
  | .late =>
    { records := [], warning := some ⟨source, s!"{source.label} query exceeded {budgetMs}ms"⟩
      late := true }

end Fetched

namespace Gateway

def gather (g : Gateway) (id : FlowId) (budgetMs : Nat) : Gathered where
  spans := (g.spans id).within budgetMs
  logs := (g.logs id).within budgetMs
  metrics := (g.metrics id).within budgetMs
  elapsedMs := max ((g.spans id).waitMs budgetMs)
    (max ((g.logs id).waitMs budgetMs) ((g.metrics id).waitMs budgetMs))

end Gateway

namespace QueryEngine

def ofSettings (s : QuerySettings) (anomaly : AnomalySettings) (head : String) : QueryEngine where
  head := head
  timeoutMs := s.timeoutMs
  anomaly := anomaly
  cache := { ttlMs := s.cacheTtlSecs * 1000, capacity := s.cacheMaxEntries }

def accept (e : QueryEngine) (raw : String) : QueryEngine × Except QueryFault FlowId :=
  match acceptId raw .outside with
  | .ok a => (e, .ok a.id)
  | .error d =>
    ({ e with counters := { e.counters with validationErrors := e.counters.validationErrors + 1 } },
      .error (.invalid d))

def acceptNotices (raw : String) : List Notice :=
  match acceptId raw .outside with
  | .ok a => match a.repaired with
    | none => []
    | some d => [.warn (s!"Sanitized requested correlation id ({d.message}): " ++
        Text.quoted raw ++ " -> " ++ a.id.text)]
  | .error d => [.warn ("Rejected requested correlation id " ++ Text.quoted raw ++ ": " ++ d.message)]

def count (e : QueryEngine) (f : QueryCounters → QueryCounters) : QueryEngine :=
  { e with counters := f e.counters }

def builtNotice (c : FlowContext) : Notice :=
  .info (s!"Built context {c.id}: {c.summary.totalSpans} spans, {c.summary.totalLogs} logs, " ++
    s!"{c.summary.totalMetrics} metrics" ++ if c.isPartial then " (partial)" else "")

def build (e : QueryEngine) (now : Nat) (id : FlowId) (spans : List SpanRecord) (x : Gathered) :
    QueryAnswer (Option FlowContext) :=
  let logs := x.logs.degrade .logs e.timeoutMs
  let metrics := x.metrics.degrade .metrics e.timeoutMs
  let warnings := logs.warning.toList ++ metrics.warning.toList
  let said := warnings.map (fun w ↦ Notice.warn s!"Partial context for {id.text}: {w.message}")
  let late := (if logs.late then 1 else 0) + (if metrics.late then 1 else 0)
  let e := e.count (fun c ↦ { c with timeouts := c.timeouts + late })
  if spans.isEmpty && logs.records.isEmpty then
    { engine := e.count (fun c ↦ { c with notFound := c.notFound + 1 })
      result := some (.ok none)
      notices := said ++ [.debug s!"No spans or logs for {id.text}"]
      elapsedMs := x.elapsedMs }
  else
    match FlowContext.assemble? id.text ⟨spans, logs.records, metrics.records⟩ e.anomaly .epoch with
    | none => { engine := e, result := none, notices := said, elapsedMs := x.elapsedMs }
    | some c =>
      let c := warnings.foldl FlowContext.addWarning c
      let e := e.count (fun k ↦
        { k with partialResults := if c.isPartial then k.partialResults + 1 else k.partialResults })
      { engine := { e with cache := e.cache.insert (now + x.elapsedMs) (id.identity e.head) c }
        result := some (.ok (some c))
        notices := said ++ [builtNotice c]
        elapsedMs := x.elapsedMs }

def fetchContext (e : QueryEngine) (g : Gateway) (now : Nat) (id : FlowId) :
    QueryAnswer (Option FlowContext) :=
  let x := g.gather id e.timeoutMs
  match x.spans with
  | .arrived spans => e.build now id spans x
  | .late =>
    { engine := e.count (fun c ↦ { c with timeouts := c.timeouts + 1 })
      result := some (.error (.timeout e.timeoutMs))
      notices := [.warn s!"Span query for {id.text} exceeded {millisText e.timeoutMs}"]
      elapsedMs := x.elapsedMs }
  | .failed f =>
    { engine := e.count (fun c ↦ { c with storageErrors := c.storageErrors + 1 })
      result := some (.error (.storage f))
      notices := [.warn s!"Span query for {id.text} failed: {f.message}"]
      elapsedMs := x.elapsedMs }

def context (e : QueryEngine) (g : Gateway) (now : Nat) (raw : String) :
    QueryAnswer (Option FlowContext) :=
  let e := e.count (fun c ↦ { c with requests := c.requests + 1 })
  let said := acceptNotices raw
  match e.accept raw with
  | (e, .error f) => { engine := e, result := some (.error f), notices := said }
  | (e, .ok id) =>
    match e.cache.get now (id.identity e.head) with
    | (cache, some c) =>
      { engine := { e with cache := cache }.count (fun k ↦ { k with cacheHits := k.cacheHits + 1 })
        result := some (.ok (some c))
        notices := said ++ [.debug s!"Context cache hit for {id.text}"] }
    | (cache, none) =>
      let e := { e with cache := cache }.count (fun k ↦ { k with cacheMisses := k.cacheMisses + 1 })
      let r := e.fetchContext g now id
      { r with notices := said ++ r.notices }

def timeline (e : QueryEngine) (g : Gateway) (now : Nat) (raw : String) :
    QueryAnswer (Option (List TimelineEvent)) :=
  let r := e.context g now raw
  { engine := r.engine
    result := r.result.map (·.map (·.map (·.timeline)))
    notices := r.notices
    elapsedMs := r.elapsedMs }

def fetchKind {α : Type} (e : QueryEngine) (fetch : FlowId → Fetch α) (raw : String) :
    QueryAnswer (List α) :=
  let said := acceptNotices raw
  match e.accept raw with
  | (e, .error f) => { engine := e, result := some (.error f), notices := said }
  | (e, .ok id) =>
    { engine := e
      result := some (match (fetch id).within e.timeoutMs with
        | .arrived l => .ok l
        | .failed f => .error (.storage f)
        | .late => .error (.timeout e.timeoutMs))
      notices := said
      elapsedMs := (fetch id).waitMs e.timeoutMs }

def spans (e : QueryEngine) (g : Gateway) (raw : String) : QueryAnswer (List SpanRecord) :=
  e.fetchKind g.spans raw

def logs (e : QueryEngine) (g : Gateway) (raw : String) : QueryAnswer (List LogEntry) :=
  e.fetchKind g.logs raw

/-- Forgets the context of a flow; says whether there was one. -/
def invalidate (e : QueryEngine) (raw : String) : QueryEngine × Bool :=
  match e.accept raw with
  | (e, .error _) => (e, false)
  | (e, .ok id) =>
    let key := id.identity e.head
    ({ e with cache := e.cache.invalidate key }, e.cache.entries.contains key)

end QueryEngine

end FlowCorrelation
