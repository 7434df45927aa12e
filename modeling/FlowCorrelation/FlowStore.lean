import FlowCorrelation.Calendar.Chronology
import FlowCorrelation.FlowId.Identity
import FlowCorrelation.Journal
import FlowCorrelation.Record.Basic

namespace FlowCorrelation

abbrev RecordIndex (α : Type) := Dict (List α)

namespace RecordIndex

variable {α : Type}

def push (d : RecordIndex α) (key : String) (a : α) : RecordIndex α :=
  Dict.update d key (fun l ↦ l.getD [] ++ [a])

def under (d : RecordIndex α) (key : String) : List α := (Dict.get? d key).getD []

def keep (p : α → Bool) (d : RecordIndex α) : RecordIndex α :=
  (Dict.map (fun _ l ↦ l.filter p) d).filter (fun _ l ↦ !l.isEmpty)

def count (d : RecordIndex α) : Nat := ((Dict.values d).map List.length).foldl (· + ·) 0

end RecordIndex

structure FlowStore where
  attributeName : String := "correlation_id"
  head : String := "olly"
  /-- Records older than this may be purged; without it all are kept. -/
  retention : Option Span := none
  spans : RecordIndex SpanRecord := ∅
  logs : RecordIndex LogEntry := ∅
  metrics : RecordIndex MetricPoint := ∅
  stored : Nat := 0
  unindexed : Nat := 0
deriving BEq, Repr

/-- The id that a record carries under an attribute: among its attributes, those of its resource,
or those of the link of a metric point. -/
def Record.carriedId (r : Record) (attributeName : String) : Option String :=
  ((r.attributes.get? attributeName).or (r.resource.get? attributeName)).or
    (r.exemplar.bind (·.filteredAttributes.get? attributeName))

namespace FlowStore

def maxRetentionSecs : Nat := 9223372036854775

/-- Sets the retention; zero keeps records for ever. -/
def withRetention (s : FlowStore) (secs : Nat) : FlowStore :=
  { s with retention :=
      if secs = 0 then none else some ((min secs maxRetentionSecs : Nat) * 1000000000) }

def keyOf (s : FlowStore) (r : Record) : Option String :=
  (r.carriedId s.attributeName).map (identityKey · s.head)

def put (s : FlowStore) (key : String) (r : Record) : FlowStore :=
  let s := { s with stored := s.stored + 1 }
  match r with
  | .span x => { s with spans := s.spans.push key x }
  | .log x => { s with logs := s.logs.push key x }
  | .metric x => { s with metrics := s.metrics.push key x }

/-- Adds a record; one without an id is only counted. -/
def insert (s : FlowStore) (r : Record) : FlowStore :=
  match s.keyOf r with
  | some key => s.put key r
  | none => { s with unindexed := s.unindexed + 1 }

def indexes (s : FlowStore) (r : Record) : Bool := (s.keyOf r).isSome

def insertAll (s : FlowStore) (l : List Record) : FlowStore := l.foldl insert s

def spansOf (s : FlowStore) (id : FlowId) : List SpanRecord :=
  chronological (·.timestamp) (s.spans.under (id.identity s.head))

def logsOf (s : FlowStore) (id : FlowId) : List LogEntry :=
  chronological (·.timestamp) (s.logs.under (id.identity s.head))

def metricsOf (s : FlowStore) (id : FlowId) : List MetricPoint :=
  chronological (·.timestamp) (s.metrics.under (id.identity s.head))

def size (s : FlowStore) : Nat := s.spans.count + s.logs.count + s.metrics.count

def dropBefore (s : FlowStore) (cutoff : Instant) : FlowStore :=
  { s with
    spans := s.spans.keep (fun x ↦ cutoff ≤ x.timestamp)
    logs := s.logs.keep (fun x ↦ cutoff ≤ x.timestamp)
    metrics := s.metrics.keep (fun x ↦ cutoff ≤ x.timestamp) }

/-- Removes the records that are older than the retention. There is no result where the retention
reaches back beyond the calendar. -/
def purge? (s : FlowStore) (now : Instant) : Option FlowStore :=
  match s.retention with
  | none => some s
  | some r => (now.sub? r).map s.dropBefore

def flowCount (s : FlowStore) : Nat := (Dict.ofNames (s.spans.keys ++ s.logs.keys)).size

def purgeNotices (removed : Nat) : List Notice :=
  if removed = 0 then [] else [.debug s!"Purged {removed} expired records"]

end FlowStore

end FlowCorrelation
