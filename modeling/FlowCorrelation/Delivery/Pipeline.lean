import FlowCorrelation.Delivery.Broadcast
import FlowCorrelation.Delivery.Plugin

namespace FlowCorrelation

structure Pipeline (π τ : Type) where
  processors : List (Processor π)
  sinks : List (Sink τ)
  /-- How many batches may wait; at least one may. -/
  queueCapacity : Nat := 1024

def defaultFeedSize : Nat := 256

/-- What the loop is at. -/
inductive LoopPhase where
  | listening
  /-- Working off what waits, after the signal to stop. -/
  | draining
  /-- Flushing the sinks, so many of which are flushed. -/
  | flushing (flushed : Nat)
deriving DecidableEq, Repr

structure PipelineLoop where
  waiting : List (List Record) := []
  senders : Nat := 1
  signalled : Bool := false
  phase : LoopPhase := .listening
deriving Repr

/-- The state of a pipeline: that of its processors and of its sinks, the batches for those who
listen, the loop if there is one, and the journal. -/
structure PipelineState (π τ : Type) where
  processing : π
  storing : τ
  feed : Broadcast (List Record) := .ofSize defaultFeedSize
  loop : Option PipelineLoop := none
  journal : List Notice := []

inductive PipelineAction where
  | run (batch : List Record)
  | start
  | send (batch : List Record)
  | share
  | drop
  | signal
  | take
  /-- The loop notices the signal. -/
  | heed
  /-- The loop notices that all senders are gone. -/
  | hangUp
  /-- The loop finds that nothing waits any more. -/
  | dry
  /-- The loop flushes the next sink. -/
  | flush
  /-- The loop ends; what waits then is lost. -/
  | finish

variable {π τ : Type}

namespace PipelineState

def isRunning (s : PipelineState π τ) : Bool := s.loop.isSome

def say (s : PipelineState π τ) (l : List Notice) : PipelineState π τ :=
  { s with journal := s.journal ++ l }

def withLoop (s : PipelineState π τ) (l : PipelineLoop) : PipelineState π τ := { s with loop := some l }

end PipelineState

namespace Pipeline

def process (p : Pipeline π τ) (s : π) (batch : List Record) : Processed π :=
  p.processors.foldl (fun x k ↦
    let y := k.process x.state x.batch
    { y with notices := x.notices ++ y.notices }) { state := s, batch := batch }

def failureNotice (k : Sink τ) (f : PluginFault) : Notice :=
  .warn s!"Sink {k.info.name} failed: {f.message}"

def flushNotice (k : Sink τ) (f : PluginFault) : Notice :=
  .warn s!"Error flushing sink {k.info.name}: {f.message}"

def complaint (tell : PluginFault → Notice) : Except PluginFault Unit → List Notice
  | .ok () => []
  | .error f => [tell f]

/-- Delivers a batch to every sink; an empty batch is not delivered. -/
def deliver (p : Pipeline π τ) (t : τ) (batch : List Record) : τ × List Notice :=
  if batch.isEmpty then (t, [])
  else p.sinks.foldl (fun (t, said) k ↦
    let (t, r) := k.write t batch
    (t, said ++ complaint (failureNotice k) r)) (t, [])

def runBatch (p : Pipeline π τ) (s : PipelineState π τ) (batch : List Record) :
    PipelineState π τ × List Record :=
  let x := p.process s.processing batch
  let (t, said) := p.deliver s.storing x.batch
  ({ s with
      processing := x.state
      storing := t
      feed := s.feed.send x.batch
      journal := s.journal ++ x.notices ++ said }, x.batch)

def handle (p : Pipeline π τ) (s : PipelineState π τ) (batch : List Record) : PipelineState π τ :=
  (p.runBatch (s.say [.debug s!"Received batch of {batch.length} records"]) batch).1

def flushSink (s : PipelineState π τ) (k : Sink τ) : PipelineState π τ :=
  let (t, r) := k.flush s.storing
  { s with storing := t, journal := s.journal ++ complaint (flushNotice k) r }

def startNotice (p : Pipeline π τ) : Notice :=
  .info s!"Starting pipeline: {p.processors.length} processors, {p.sinks.length} sinks"

def hasRoom (p : Pipeline π τ) (l : PipelineLoop) : Bool := l.waiting.length < max p.queueCapacity 1

def stepLoop? (p : Pipeline π τ) (s : PipelineState π τ) (l : PipelineLoop) :
    PipelineAction → Option (PipelineState π τ)
  | .run batch => some (p.runBatch s batch).1
  | .start => none
  | .send batch =>
    if 0 < l.senders ∧ p.hasRoom l then some (s.withLoop { l with waiting := l.waiting ++ [batch] })
    else none
  | .share => if 0 < l.senders then some (s.withLoop { l with senders := l.senders + 1 }) else none
  | .drop => if 0 < l.senders then some (s.withLoop { l with senders := l.senders - 1 }) else none
  | .signal => some (s.withLoop { l with signalled := true })
  | .take => match l.phase, l.waiting with
    | .flushing _, _ => none
    | _, [] => none
    | _, b :: bs => some (p.handle (s.withLoop { l with waiting := bs }) b)
  | .heed =>
    if l.phase = .listening ∧ l.signalled then
      some ((s.withLoop { l with phase := .draining }).say [.info "Pipeline shutdown signal received"])
    else none
  | .hangUp =>
    if l.phase = .listening ∧ l.waiting.isEmpty ∧ l.senders = 0 then
      some (s.withLoop { l with phase := .flushing 0 })
    else none
  | .dry =>
    if l.phase = .draining ∧ l.waiting.isEmpty then some (s.withLoop { l with phase := .flushing 0 })
    else none
  | .flush => match l.phase with
    | .flushing n => (p.sinks[n]?).map (fun k ↦
        flushSink (s.withLoop { l with phase := .flushing (n + 1) }) k)
    | _ => none
  | .finish => match l.phase with
    | .flushing n =>
      if p.sinks.length ≤ n then some ({ s with loop := none }.say [.info "Pipeline stopped"]) else none
    | _ => none

def step? (p : Pipeline π τ) (s : PipelineState π τ) (a : PipelineAction) :
    Option (PipelineState π τ) :=
  match s.loop, a with
  | some l, a => p.stepLoop? s l a
  | none, .run batch => some (p.runBatch s batch).1
  | none, .start => some ({ s with loop := some {} }.say [p.startNotice])
  | none, _ => none

def steps? (p : Pipeline π τ) (s : PipelineState π τ) (l : List PipelineAction) :
    Option (PipelineState π τ) :=
  l.foldlM p.step? s

def start (p : Pipeline π τ) (s : PipelineState π τ) : Except PluginFault (PipelineState π τ) :=
  match p.step? s .start with
  | some s => .ok s
  | none => .error (.operation "Pipeline already running")

def catchUp (l : PipelineLoop) : List PipelineAction := List.replicate l.waiting.length .take

def flushOn (p : Pipeline π τ) (n : Nat) : List PipelineAction :=
  List.replicate (p.sinks.length - n) .flush ++ [.finish]

def ending (p : Pipeline π τ) (l : PipelineLoop) : List PipelineAction :=
  .signal :: match l.phase with
    | .listening => .heed :: catchUp l ++ .dry :: p.flushOn 0
    | .draining => catchUp l ++ .dry :: p.flushOn 0
    | .flushing n => p.flushOn n

/-- Sends a batch to the loop, which first catches up if there is no room; without a loop nothing
can be sent. -/
def send? (p : Pipeline π τ) (s : PipelineState π τ) (batch : List Record) :
    Option (PipelineState π τ) :=
  s.loop.bind (fun l ↦ p.steps? s ((if p.hasRoom l then [] else catchUp l) ++ [.send batch]))

def stop (p : Pipeline π τ) (s : PipelineState π τ) : PipelineState π τ :=
  match s.loop with
  | none => s
  | some l => (p.steps? s (p.ending l)).getD s

end Pipeline

end FlowCorrelation
