import FlowCorrelation.About
import FlowCorrelation.Enrichment.Enricher
import FlowCorrelation.FlowStore
import FlowCorrelation.Record.File

namespace FlowCorrelation

inductive PluginFault where
  | start (reason : String)
  | operation (reason : String)
  | configuration (reason : String)
  | io (reason : String)
  | serialization (reason : String)
  | other (reason : String)
deriving DecidableEq, Repr

def PluginFault.message : PluginFault → String
  | .start reason => s!"Plugin initialization failed: {reason}"
  | .operation reason => s!"Plugin operation failed: {reason}"
  | .configuration reason => s!"Plugin configuration error: {reason}"
  | .io reason => s!"IO error: {reason}"
  | .serialization reason => s!"Serialization error: {reason}"
  | .other reason => s!"Other error: {reason}"

structure PluginInfo where
  name : String
  version : String := FlowCorrelation.version
  description : String := ""
deriving DecidableEq, Repr

structure Processed (π : Type) where
  state : π
  batch : List Record
  notices : List Notice := []

structure Processor (π : Type) where
  info : PluginInfo
  process : π → List Record → Processed π

structure Sink (τ : Type) where
  info : PluginInfo
  write : τ → List Record → τ × Except PluginFault Unit
  flush : τ → τ × Except PluginFault Unit := fun t ↦ (t, .ok ())

/-- A part of a state. -/
structure Part (σ α : Type) where
  get : σ → α
  set : σ → α → σ

def Part.whole {σ : Type} : Part σ σ := ⟨id, fun _ a ↦ a⟩

def Enricher.info : PluginInfo where
  name := "correlation-enricher"
  description := "Stamps records with correlation ids and bounds attribute cardinality"

/-- The processor that enriches. The enricher is gone once its guard has had no answer, and with it the
batch and all that come after. -/
def Enricher.processor {π : Type} (enricher : Part π (Option Enricher))
    (counters : Part π EnrichmentCounters) (now : Instant) (random : Nat → List UInt8) : Processor π where
  info := Enricher.info
  process s batch :=
    match enricher.get s with
    | none => { state := s, batch := [] }
    | some e =>
      let x := e.process (counters.get s) now random batch
      { state := counters.set (enricher.set s (x.result.map (fun _ ↦ x.enricher))) x.counters
        batch := x.result.getD []
        notices := x.notices }

def FlowStore.info : PluginInfo where
  name := "memory-store"
  description := "Indexes records by correlation id in memory"

def RecordWriter.info : PluginInfo where
  name := RecordWriter.name
  description := RecordWriter.description

def FlowStore.sink {τ : Type} (store : Part τ FlowStore) : Sink τ where
  info := FlowStore.info
  write t batch := (store.set t ((store.get t).insertAll batch), .ok ())

end FlowCorrelation
