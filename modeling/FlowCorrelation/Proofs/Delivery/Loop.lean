import FlowCorrelation.Delivery.Pipeline
import Mathlib.Data.List.Infix
import Mathlib.Data.List.TakeWhile

namespace FlowCorrelation

namespace PipelineAction

def sent? : PipelineAction → Option (List Record)
  | .send batch => some batch
  | _ => none

def isTake : PipelineAction → Bool
  | .take => true
  | _ => false

def isSignal : PipelineAction → Bool
  | .signal => true
  | _ => false

/-- Whether an action neither ends a loop nor goes past it. -/
def isWithin : PipelineAction → Bool
  | .run _ | .finish => false
  | _ => true

/-- The batches that a schedule sends. -/
def sent (l : List PipelineAction) : List (List Record) := l.filterMap sent?

/-- The batches that a schedule sends before the signal to stop. -/
def sentInTime (l : List PipelineAction) : List (List Record) := sent (l.takeWhile (!·.isSignal))

/-- How many batches the loop takes. -/
def taken (l : List PipelineAction) : Nat := l.countP isTake

variable {l : List PipelineAction} {a : PipelineAction}

theorem sent_concat : sent (l ++ [a]) = sent l ++ a.sent?.toList := by
  cases h : a.sent? <;> simp [sent, h]

theorem taken_concat : taken (l ++ [a]) = taken l + if a.isTake then 1 else 0 := by
  rw [taken, List.countP_append, List.countP_singleton, taken]

theorem sentInTime_prefix : sentInTime l <+: sent l :=
  (List.takeWhile_prefix _).filterMap _

theorem sentInTime_concat (h : l.any (·.isSignal)) : sentInTime (l ++ [a]) = sentInTime l := by
  obtain ⟨b, hb, hsignal⟩ := List.any_eq_true.1 h
  rw [sentInTime, List.takeWhile_append, if_neg, sentInTime]
  intro hlength
  have hall := (List.takeWhile_eq_self_iff.1 ((List.takeWhile_prefix _).eq_of_length hlength)) b hb
  simp [hsignal] at hall

end PipelineAction

variable {π τ : Type}

/-- The state without the loop and the journal. -/
def PipelineState.bare (s : PipelineState π τ) : PipelineState π τ :=
  { s with loop := none, journal := [] }

def PipelineLoop.flushed (l : PipelineLoop) : Nat :=
  match l.phase with
  | .flushing n => n
  | .listening | .draining => 0

namespace Pipeline

open PipelineAction

/-- Runs batches one after another. -/
def runAll (p : Pipeline π τ) (s : PipelineState π τ) (l : List (List Record)) : PipelineState π τ :=
  l.foldl (fun s batch ↦ (p.runBatch s batch).1) s

/-- Flushes the first sinks. -/
def flushFirst (p : Pipeline π τ) (n : Nat) (s : PipelineState π τ) : PipelineState π τ :=
  (p.sinks.take n).foldl flushSink s

variable {p : Pipeline π τ} {s t u : PipelineState π τ} {l : PipelineLoop}
  {acts : List PipelineAction} {a : PipelineAction} {handled : List (List Record)}

theorem bare_handle (h : s.bare = u.bare) (batch : List Record) :
    (p.handle s batch).bare = (p.runBatch u batch).1.bare := by
  obtain ⟨hprocessing, hstoring, hfeed, -⟩ := PipelineState.mk.injEq .. ▸ h
  simp [handle, runBatch, PipelineState.bare, PipelineState.say, hprocessing, hstoring, hfeed]

theorem bare_flushSink (h : s.bare = u.bare) (k : Sink τ) :
    (flushSink s k).bare = (flushSink u k).bare := by
  obtain ⟨hprocessing, hstoring, hfeed, -⟩ := PipelineState.mk.injEq .. ▸ h
  simp [flushSink, PipelineState.bare, hprocessing, hstoring, hfeed]

theorem runAll_concat (l : List (List Record)) (batch : List Record) :
    p.runAll s (l ++ [batch]) = (p.runBatch (p.runAll s l) batch).1 := by
  rw [runAll, List.foldl_append]
  rfl

theorem flushFirst_succ {n : Nat} {k : Sink τ} (h : p.sinks[n]? = some k) :
    p.flushFirst (n + 1) s = flushSink (p.flushFirst n s) k := by
  rw [flushFirst, List.take_add_one, h, List.foldl_append]
  rfl

theorem steps?_append (l l' : List PipelineAction) :
    p.steps? s (l ++ l') = (p.steps? s l).bind (p.steps? · l') :=
  List.foldlM_append

theorem steps?_cons (l : List PipelineAction) :
    p.steps? s (a :: l) = (p.step? s a).bind (p.steps? · l) :=
  List.foldlM_cons

theorem steps?_singleton : p.steps? s [a] = p.step? s a :=
  bind_pure _

theorem step?_start_eq_some_iff : p.step? s .start = some t ↔
    s.loop = none ∧ { s with loop := some {} }.say [p.startNotice] = t := by
  unfold step?
  cases s.loop <;> simp [stepLoop?]

inductive LoopStep (p : Pipeline π τ) (s : PipelineState π τ) (l : PipelineLoop) :
    PipelineAction → PipelineState π τ → Prop
  | run (batch : List Record) : LoopStep p s l (.run batch) (p.runBatch s batch).1
  | send (batch : List Record) (senders : 0 < l.senders) (room : p.hasRoom l) :
    LoopStep p s l (.send batch) (s.withLoop { l with waiting := l.waiting ++ [batch] })
  | share (senders : 0 < l.senders) :
    LoopStep p s l .share (s.withLoop { l with senders := l.senders + 1 })
  | drop (senders : 0 < l.senders) :
    LoopStep p s l .drop (s.withLoop { l with senders := l.senders - 1 })
  | signal : LoopStep p s l .signal (s.withLoop { l with signalled := true })
  | take (batch : List Record) (rest : List (List Record)) (phase : ∀ n, l.phase ≠ .flushing n)
    (waiting : l.waiting = batch :: rest) :
    LoopStep p s l .take (p.handle (s.withLoop { l with waiting := rest }) batch)
  | heed (phase : l.phase = .listening) (signalled : l.signalled) :
    LoopStep p s l .heed
      ((s.withLoop { l with phase := .draining }).say [.info "Pipeline shutdown signal received"])
  | hangUp (phase : l.phase = .listening) (waiting : l.waiting = []) (senders : l.senders = 0) :
    LoopStep p s l .hangUp (s.withLoop { l with phase := .flushing 0 })
  | dry (phase : l.phase = .draining) (waiting : l.waiting = []) :
    LoopStep p s l .dry (s.withLoop { l with phase := .flushing 0 })
  | flush (n : Nat) (k : Sink τ) (phase : l.phase = .flushing n) (sink : p.sinks[n]? = some k) :
    LoopStep p s l .flush (flushSink (s.withLoop { l with phase := .flushing (n + 1) }) k)
  | finish (n : Nat) (phase : l.phase = .flushing n) (flushed : p.sinks.length ≤ n) :
    LoopStep p s l .finish ({ s with loop := none }.say [.info "Pipeline stopped"])

theorem stepLoop?_eq_some_iff : p.stepLoop? s l a = some t ↔ p.LoopStep s l a t := by
  constructor
  · intro h
    cases a with
    | run batch =>
      cases h
      exact .run batch
    | start => cases h
    | send batch =>
      obtain ⟨⟨hsenders, hroom⟩, h⟩ := Option.ite_none_right_eq_some.1 h
      cases h
      exact .send batch hsenders hroom
    | share =>
      obtain ⟨hsenders, h⟩ := Option.ite_none_right_eq_some.1 h
      cases h
      exact .share hsenders
    | drop =>
      obtain ⟨hsenders, h⟩ := Option.ite_none_right_eq_some.1 h
      cases h
      exact .drop hsenders
    | signal =>
      cases h
      exact .signal
    | take =>
      simp only [stepLoop?] at h
      split at h
      · cases h
      · cases h
      · rename_i batch rest hwaiting hphase
        cases h
        exact .take batch rest hphase hwaiting
    | heed =>
      obtain ⟨⟨hphase, hsignalled⟩, h⟩ := Option.ite_none_right_eq_some.1 h
      cases h
      exact .heed hphase hsignalled
    | hangUp =>
      obtain ⟨⟨hphase, hwaiting, hsenders⟩, h⟩ := Option.ite_none_right_eq_some.1 h
      cases h
      exact .hangUp hphase (List.isEmpty_iff.1 hwaiting) hsenders
    | dry =>
      obtain ⟨⟨hphase, hwaiting⟩, h⟩ := Option.ite_none_right_eq_some.1 h
      cases h
      exact .dry hphase (List.isEmpty_iff.1 hwaiting)
    | flush =>
      simp only [stepLoop?] at h
      split at h
      · rename_i n hphase
        obtain ⟨k, hk, rfl⟩ := Option.map_eq_some_iff.1 h
        exact .flush n k hphase hk
      · cases h
    | finish =>
      simp only [stepLoop?] at h
      split at h
      · rename_i n hphase
        obtain ⟨hflushed, h⟩ := Option.ite_none_right_eq_some.1 h
        cases h
        exact .finish n hphase hflushed
      · cases h
  · rintro (_ | ⟨_, hsenders, hroom⟩ | hsenders | hsenders | _ | ⟨_, _, hphase, hwaiting⟩ |
      ⟨hphase, hsignalled⟩ | ⟨hphase, hwaiting, hsenders⟩ | ⟨hphase, hwaiting⟩ |
      ⟨_, _, hphase, hsink⟩ | ⟨_, hphase, hflushed⟩) <;> simp_all [stepLoop?]

theorem step?_eq_some_iff (hloop : s.loop = some l) :
    p.step? s a = some t ↔ p.LoopStep s l a t := by
  rw [← stepLoop?_eq_some_iff, step?]
  simp only [hloop]

/-- What holds of a loop that was started in the state `s₀` and has gone through some actions, when
it has handled some batches. -/
structure Underway (p : Pipeline π τ) (s₀ : PipelineState π τ) (acts : List PipelineAction)
    (s : PipelineState π τ) (l : PipelineLoop) (handled : List (List Record)) : Prop where
  loop : s.loop = some l
  queue : sent acts = handled ++ l.waiting
  taken : handled.length = taken acts
  signalled : l.signalled = acts.any (·.isSignal)
  work : s.bare = (p.flushFirst l.flushed (p.runAll s₀ handled)).bare
  flushed : l.flushed ≤ p.sinks.length
  draining : l.phase = .draining → l.signalled
  flushing : ∀ n, l.phase = .flushing n →
    l.waiting = [] ∧ l.senders = 0 ∨ l.signalled ∧ sentInTime acts <+: handled

theorem underway_start : p.Underway s [] ({ s with loop := some {} }.say [p.startNotice]) {} [] where
  loop := rfl
  queue := rfl
  taken := rfl
  signalled := rfl
  work := rfl
  flushed := Nat.zero_le _
  draining := nofun
  flushing := nofun

theorem Underway.keep {l' : PipelineLoop} (h : p.Underway s acts t l handled)
    (htake : a.isTake = false) (hloop : u.loop = some l') (hbare : u.bare = t.bare)
    (hwaiting : l'.waiting = l.waiting ++ a.sent?.toList)
    (hsignalled : l'.signalled = (l.signalled || a.isSignal)) (hflushed : l'.flushed = l.flushed)
    (hdraining : l'.phase = .draining → l'.signalled)
    (hflushing : ∀ n, l'.phase = .flushing n →
      l'.waiting = [] ∧ l'.senders = 0 ∨ l'.signalled ∧ sentInTime (acts ++ [a]) <+: handled) :
    p.Underway s (acts ++ [a]) u l' handled where
  loop := hloop
  queue := by rw [sent_concat, h.queue, hwaiting, List.append_assoc]
  taken := by simp [taken_concat, htake, h.taken]
  signalled := by simp [hsignalled, h.signalled]
  work := by rw [hbare, h.work, hflushed]
  flushed := hflushed ▸ h.flushed
  draining := hdraining
  flushing := hflushing

theorem Underway.sentInTime_concat (h : p.Underway s acts t l handled) (hsignalled : l.signalled) :
    sentInTime (acts ++ [a]) = sentInTime acts :=
  PipelineAction.sentInTime_concat (h.signalled ▸ hsignalled)

theorem Underway.step (h : p.Underway s acts t l handled) (hwithin : a.isWithin)
    (hstep : p.step? t a = some u) :
    ∃ l' handled', p.Underway s (acts ++ [a]) u l' handled' := by
  rw [step?_eq_some_iff h.loop] at hstep
  -- While senders are left, only a loop that was told to stop flushes its sinks.
  have hlate (hsenders : 0 < l.senders) {n : Nat} (hphase : l.phase = .flushing n) :
      l.signalled ∧ sentInTime (acts ++ [a]) <+: handled := by
    rcases h.flushing n hphase with ⟨-, hnone⟩ | ⟨hsignalled, hearly⟩
    · omega
    · exact ⟨hsignalled, h.sentInTime_concat hsignalled ▸ hearly⟩
  cases hstep with
  | run | finish => cases hwithin
  | send batch hsenders =>
    exact ⟨_, handled, h.keep rfl rfl rfl rfl (by simp [isSignal]) rfl h.draining
      (fun n hn ↦ Or.inr (hlate hsenders hn))⟩
  | share hsenders =>
    exact ⟨_, handled, h.keep rfl rfl rfl (by simp [sent?]) (by simp [isSignal]) rfl h.draining
      (fun n hn ↦ Or.inr (hlate hsenders hn))⟩
  | drop hsenders =>
    exact ⟨_, handled, h.keep rfl rfl rfl (by simp [sent?]) (by simp [isSignal]) rfl h.draining
      (fun n hn ↦ Or.inr (hlate hsenders hn))⟩
  | signal =>
    refine ⟨_, handled, h.keep rfl rfl rfl (by simp [sent?]) (by simp [isSignal]) rfl (fun _ ↦ rfl)
      (fun n hn ↦ (h.flushing n hn).imp_right (fun ⟨hsignalled, hearly⟩ ↦ ⟨rfl, ?_⟩))⟩
    exact h.sentInTime_concat hsignalled ▸ hearly
  | take batch rest hphase hwaiting =>
    have hflushed : l.flushed = 0 := by
      cases hl : l.phase with
      | flushing n => exact absurd hl (hphase n)
      | _ => simp [PipelineLoop.flushed, hl]
    refine ⟨{ l with waiting := rest }, handled ++ [batch], rfl, ?_, ?_, ?_, ?_, h.flushed, h.draining,
      fun n hn ↦ absurd hn (hphase n)⟩
    · simp [sent_concat, sent?, h.queue, hwaiting]
    · simp [taken_concat, isTake, h.taken]
    · simp [isSignal, h.signalled]
    · have hwork : t.bare = (p.runAll s handled).bare := by
        rw [h.work, hflushed]
        rfl
      have hflushed : ({ l with waiting := rest } : PipelineLoop).flushed = 0 := hflushed
      rw [hflushed, runAll_concat]
      exact bare_handle hwork batch
  | heed hphase hsignalled =>
    exact ⟨_, handled, h.keep rfl rfl rfl (by simp [sent?]) (by simp [isSignal])
      (by simp [PipelineLoop.flushed, hphase]) (fun _ ↦ hsignalled) nofun⟩
  | hangUp hphase hwaiting hsenders =>
    exact ⟨_, handled, h.keep rfl rfl rfl (by simp [sent?]) (by simp [isSignal])
      (by simp [PipelineLoop.flushed, hphase]) nofun (fun _ _ ↦ Or.inl ⟨hwaiting, hsenders⟩)⟩
  | dry hphase hwaiting =>
    have hsignalled : l.signalled := h.draining hphase
    refine ⟨_, handled, h.keep rfl rfl rfl (by simp [sent?]) (by simp [isSignal])
      (by simp [PipelineLoop.flushed, hphase]) nofun (fun _ _ ↦ Or.inr ⟨hsignalled, ?_⟩)⟩
    rw [h.sentInTime_concat hsignalled]
    have hsent : sent acts = handled := by rw [h.queue, hwaiting, List.append_nil]
    exact hsent ▸ sentInTime_prefix
  | flush n k hphase hsink =>
    have hflushed : l.flushed = n := by simp [PipelineLoop.flushed, hphase]
    refine ⟨{ l with phase := .flushing (n + 1) }, handled, rfl, ?_, ?_, ?_, ?_, ?_, nofun,
      fun _ _ ↦ (h.flushing n hphase).imp_right (fun ⟨hsignalled, hearly⟩ ↦ ⟨hsignalled, ?_⟩)⟩
    · simp [sent_concat, sent?, h.queue]
    · simp [taken_concat, isTake, h.taken]
    · simp [isSignal, h.signalled]
    · have hwork : t.bare = (p.flushFirst n (p.runAll s handled)).bare := hflushed ▸ h.work
      exact (bare_flushSink hwork k).trans (congrArg _ (flushFirst_succ hsink).symm)
    · exact (List.getElem?_eq_some_iff.1 hsink).1
    · exact h.sentInTime_concat hsignalled ▸ hearly

/-- Whatever a started loop and its senders do short of its end, it remains underway. -/
theorem underway_of_steps (hwithin : ∀ a ∈ acts, a.isWithin)
    (h : p.steps? s (.start :: acts) = some t) : ∃ l handled, p.Underway s acts t l handled := by
  rw [steps?_cons, Option.bind_eq_some_iff] at h
  obtain ⟨s₁, hstart, h⟩ := h
  obtain ⟨-, rfl⟩ := step?_start_eq_some_iff.1 hstart
  induction acts using List.reverseRecOn generalizing t with
  | nil =>
    cases h
    exact ⟨_, _, underway_start⟩
  | append_singleton acts a ih =>
    rw [steps?_append, Option.bind_eq_some_iff] at h
    obtain ⟨u, hu, h⟩ := h
    obtain ⟨l, handled, hunderway⟩ :=
      ih (fun b hb ↦ hwithin b (List.mem_append_left _ hb)) hu
    exact hunderway.step (hwithin a (by simp)) (steps?_singleton ▸ h)

end Pipeline

end FlowCorrelation
