import FlowCorrelation.Disk
import FlowCorrelation.Journal
import FlowCorrelation.Record.Json

namespace FlowCorrelation

inductive RecordLine where
  | blank
  | record (r : Record)
  | foreign
  | bytes

structure RecordReading where
  result : Except DiskFault (List Record)
  notices : List Notice := []

namespace RecordLine

def ofText (s : String) : RecordLine :=
  let line := Text.trimmed s
  if line.isEmpty then .blank
  else match Record.read? line with
    | some r => .record r
    | none => .foreign

def ofBytes (l : List UInt8) : RecordLine :=
  match String.fromUTF8? ⟨l.toArray⟩ with
  | some s => ofText s
  | none => .bytes

def skipNotice (path : String) (number : Nat) : Notice :=
  .warn ("Skipping " ++ Text.quoted path ++ s!" line {number}: not a record")

def records (path : String) : Nat → List RecordLine → RecordReading
  | _, [] => { result := .ok [] }
  | n, .blank :: l => records path (n + 1) l
  | n, .record r :: l =>
    let rest := records path (n + 1) l
    { rest with result := rest.result.map (r :: ·) }
  | n, .foreign :: l =>
    let rest := records path (n + 1) l
    { rest with notices := skipNotice path n :: rest.notices }
  | _, .bytes :: _ => { result := .error .notText }

end RecordLine

def newlineByte : UInt8 := 10

def recordsOfBytes (path : String) (content : ByteArray) : RecordReading :=
  RecordLine.records path 1
    ((Text.splitAll (· = newlineByte) content.data.toList).map RecordLine.ofBytes)

variable {m : Type → Type} [Monad m] [MonadDisk m]

def readRecords (path : String) : m RecordReading := do
  return match ← readBytes path with
    | .ok content => recordsOfBytes path content
    | .error f => { result := .error f }

/-- Text on its way to a file, which waits until the buffer is full. -/
structure LineBuffer where
  waiting : String := ""
deriving Repr

namespace LineBuffer

def capacity : Nat := 8192

/-- Adds a piece of text, which is never cut; what leaves the buffer comes apart. -/
def add (b : LineBuffer) (piece : String) : LineBuffer × String :=
  let n := piece.utf8ByteSize
  if b.waiting.utf8ByteSize + n ≤ capacity ∧ n < capacity then (⟨b.waiting ++ piece⟩, "")
  else if n < capacity then (⟨piece⟩, b.waiting)
  else (⟨""⟩, b.waiting ++ piece)

def addAll (b : LineBuffer) (pieces : List String) : LineBuffer × String :=
  pieces.foldl (fun (b, out) piece ↦
    let (b, more) := b.add piece
    (b, out ++ more)) (b, "")

end LineBuffer

def recordPieces (l : List Record) : List String := l.flatMap (fun r ↦ [r.render, "\n"])

structure RecordWriter where
  path : String
  flushEach : Bool := true
  buffer : LineBuffer := {}
  written : Nat := 0
deriving Repr

namespace RecordWriter

def name : String := "jsonl-sink"

def description : String := "Writes telemetry records to JSONL files"

/-- Opens a file, which is emptied unless records are to be added at its end. -/
def create (path : String) (atEnd flushEach : Bool) : m (Except DiskFault RecordWriter × List Notice) := do
  let opened ← if atEnd then appendBytes path .empty else MonadDisk.write path .empty
  return match opened with
    | .ok () => (.ok { path := path, flushEach := flushEach },
        [.info ("JSONL sink writing to: " ++ Text.quoted path)])
    | .error f => (.error f, [])

def emit (w : RecordWriter) (batch : List Record) : RecordWriter × String :=
  let (b, out) := w.buffer.addAll (recordPieces batch)
  let w := { w with written := w.written + batch.length }
  if w.flushEach then ({ w with buffer := {} }, out ++ b.waiting) else ({ w with buffer := b }, out)

def drain (w : RecordWriter) : RecordWriter × String := ({ w with buffer := {} }, w.buffer.waiting)

def put (next : RecordWriter × String) : m (Except DiskFault RecordWriter) := do
  return (← appendBytes next.1.path next.2.toUTF8).map (fun () ↦ next.1)

def write (w : RecordWriter) (batch : List Record) : m (Except DiskFault RecordWriter) := put (w.emit batch)

def flush (w : RecordWriter) : m (Except DiskFault RecordWriter) := put w.drain

end RecordWriter

def writeRecords (path : String) (batch : List Record) :
    m (Except DiskFault RecordWriter × List Notice) := do
  let (opened, said) ← RecordWriter.create path false true
  let written ← match opened with
    | .ok w => w.write batch
    | .error f => pure (.error f)
  let flushed ← match written with
    | .ok w => w.flush
    | .error f => pure (.error f)
  return (flushed, said)

end FlowCorrelation
