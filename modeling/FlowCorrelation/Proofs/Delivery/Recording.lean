import FlowCorrelation.Proofs.Delivery.Loop
import Mathlib.Data.List.Count
import Mathlib.Data.List.Nodup

namespace FlowCorrelation

/-- What a sink is asked, by its place among the sinks. -/
inductive SinkCall where
  | write (sink : Nat) (batch : List Record)
  | flush (sink : Nat)

namespace SinkCall

def sink : SinkCall → Nat
  | .write sink _ | .flush sink => sink

end SinkCall

variable {π τ : Type}

/-- What a processor is asked, by its place among the processors. -/
structure ProcessorCall where
  processor : Nat
  batch : List Record

namespace Processor

def through (ks : List (Processor π)) (x : π) (batch : List Record) : π × List Record :=
  ks.foldl (fun (x, batch) k ↦ ((k.process x batch).state, (k.process x batch).batch)) (x, batch)

/-- What is asked of processors when a batch is taken through them: each once, with the batch that the
ones before it have made. -/
def asked (ks : List (Processor π)) (x : π) (batch : List Record) : List ProcessorCall :=
  (List.range ks.length).map (fun i ↦ ⟨i, (through (ks.take i) x batch).2⟩)

variable {ks : List (Processor π)} {k : Processor π} {x : π} {batch : List Record}

/-- A processor that writes down what it is asked. -/
def recorded (k : Processor π) (i : Nat) : Processor (π × List ProcessorCall) where
  info := k.info
  process x batch :=
    let y := k.process x.1 batch
    ⟨(y.state, x.2 ++ [⟨i, batch⟩]), y.batch, y.notices⟩

end Processor

def Sink.recorded (k : Sink τ) (i : Nat) : Sink (τ × List SinkCall) where
  info := k.info
  write t batch := (((k.write t.1 batch).1, t.2 ++ [.write i batch]), (k.write t.1 batch).2)
  flush t := (((k.flush t.1).1, t.2 ++ [.flush i]), (k.flush t.1).2)

namespace PipelineState

variable (s : PipelineState (π × List ProcessorCall) (τ × List SinkCall))

/-- The state without what was written down. -/
def forget : PipelineState π τ where
  processing := s.processing.1
  storing := s.storing.1
  feed := s.feed
  loop := s.loop
  journal := s.journal

def asked : List ProcessorCall := s.processing.2

def calls : List SinkCall := s.storing.2

end PipelineState

namespace Pipeline

/-- The pipeline with processors and sinks that write down what they are asked. -/
def recorded (p : Pipeline π τ) : Pipeline (π × List ProcessorCall) (τ × List SinkCall) where
  processors := p.processors.zipIdx.map (fun (k, i) ↦ k.recorded i)
  sinks := p.sinks.zipIdx.map (fun (k, i) ↦ k.recorded i)
  queueCapacity := p.queueCapacity

variable {p : Pipeline π τ} {s : PipelineState (π × List ProcessorCall) (τ × List SinkCall)}

end Pipeline

end FlowCorrelation
