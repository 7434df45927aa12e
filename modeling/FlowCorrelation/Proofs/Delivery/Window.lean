import FlowCorrelation.Proofs.Delivery.Lifetime

namespace FlowCorrelation

namespace PipelineAction

def isTurn : PipelineAction → Bool
  | .hangUp | .dry => true
  | _ => false

/-- The batches that are sent before the loop turns to its sinks. -/
def sentBeforeTurn (l : List PipelineAction) : List (List Record) := sent (l.takeWhile (!·.isTurn))

/-- The batches that are sent while the loop flushes its sinks. -/
def sentAfterTurn (l : List PipelineAction) : List (List Record) := sent (l.dropWhile (!·.isTurn))

variable {l : List PipelineAction} {a : PipelineAction}

theorem sent_eq_append (l : List PipelineAction) : sent l = sentBeforeTurn l ++ sentAfterTurn l := by
  rw [sentBeforeTurn, sentAfterTurn, sent, sent, sent, ← List.filterMap_append,
    List.takeWhile_append_dropWhile]

theorem sentBeforeTurn_of_any (h : l.any (·.isTurn)) (l' : List PipelineAction) :
    sentBeforeTurn (l ++ l') = sentBeforeTurn l := by
  obtain ⟨b, hb, hturn⟩ := List.any_eq_true.1 h
  rw [sentBeforeTurn, List.takeWhile_append, if_neg, sentBeforeTurn]
  intro hlength
  have hall := List.takeWhile_eq_self_iff.1 ((List.takeWhile_prefix _).eq_of_length hlength) b hb
  simp [hturn] at hall

theorem sentBeforeTurn_turn (h : l.any (·.isTurn) = false) (ha : a.isTurn) :
    sentBeforeTurn (l ++ [a]) = sent l := by
  have hall : ∀ b ∈ l, !b.isTurn := by simpa using h
  rw [sentBeforeTurn, List.takeWhile_append_of_pos hall]
  simp [ha]

end PipelineAction

namespace Pipeline

open PipelineAction

variable {π τ : Type} {p : Pipeline π τ} {s t u : PipelineState π τ} {l : PipelineLoop}
  {acts : List PipelineAction} {a : PipelineAction}

/-- Whether a loop that has gone through some actions flushes its sinks if it has turned to them, and
has then taken just what was sent before. -/
structure Turning (acts : List PipelineAction) (l : PipelineLoop) : Prop where
  phase : (∃ n, l.phase = .flushing n) ↔ acts.any (·.isTurn)
  taken : acts.any (·.isTurn) → taken acts = (sentBeforeTurn acts).length

theorem Turning.keep {l' : PipelineLoop} (h : Turning acts l) (hturn : a.isTurn = false)
    (htake : (∃ n, l.phase = .flushing n) → a.isTake = false)
    (hphase : (∃ n, l'.phase = .flushing n) ↔ ∃ n, l.phase = .flushing n) :
    Turning (acts ++ [a]) l' := by
  have hany : (acts ++ [a]).any (·.isTurn) = acts.any (·.isTurn) := by simp [hturn]
  refine ⟨by rw [hphase, h.phase, hany], fun hturned ↦ ?_⟩
  rw [hany] at hturned
  rw [taken_concat, htake (h.phase.2 hturned), sentBeforeTurn_of_any hturned, h.taken hturned]
  rfl

theorem Turning.turn {handled : List (List Record)} (h : Turning acts l)
    (hunderway : p.Underway s acts t l handled) (hphase : ∀ n, l.phase ≠ .flushing n)
    (hwaiting : l.waiting = []) (hturn : a.isTurn) (htake : a.isTake = false) :
    Turning (acts ++ [a]) { l with phase := .flushing 0 } := by
  have hbefore : acts.any (·.isTurn) = false := by
    have hnone : ¬ acts.any (·.isTurn) := fun hany ↦ by
      obtain ⟨n, hn⟩ := h.phase.2 hany
      exact hphase n hn
    simpa using hnone
  refine ⟨by simp [hturn], fun _ ↦ ?_⟩
  have hsent : sent acts = handled := by rw [hunderway.queue, hwaiting, List.append_nil]
  rw [taken_concat, htake, sentBeforeTurn_turn hbefore hturn, hsent, hunderway.taken]
  rfl

theorem Turning.step {handled : List (List Record)} {l' : PipelineLoop} (h : Turning acts l)
    (hunderway : p.Underway s acts t l handled) (hwithin : a.isWithin) (hstep : p.step? t a = some u)
    (hloop : u.loop = some l') : Turning (acts ++ [a]) l' := by
  rw [step?_eq_some_iff hunderway.loop] at hstep
  cases hstep with
  | run | finish => cases hwithin
  | send | share | drop | signal =>
    cases hloop
    exact h.keep rfl (fun _ ↦ rfl) Iff.rfl
  | take batch rest hphase =>
    cases hloop
    exact h.keep rfl (fun ⟨n, hn⟩ ↦ absurd hn (hphase n)) Iff.rfl
  | heed hphase =>
    cases hloop
    exact h.keep rfl (fun _ ↦ rfl) (by simp [hphase])
  | hangUp hphase hwaiting =>
    cases hloop
    exact h.turn hunderway (by simp [hphase]) hwaiting rfl rfl
  | dry hphase hwaiting =>
    cases hloop
    exact h.turn hunderway (by simp [hphase]) hwaiting rfl rfl
  | flush n k hphase =>
    cases hloop
    exact h.keep rfl (fun _ ↦ rfl) (by simp [hphase])

theorem turning_of_steps (hwithin : ∀ a ∈ acts, a.isWithin)
    (h : p.steps? s (.start :: acts) = some t) (hloop : t.loop = some l) : Turning acts l := by
  induction acts using List.reverseRecOn generalizing t l with
  | nil =>
    obtain ⟨-, rfl⟩ := step?_start_eq_some_iff.1 (steps?_singleton ▸ h)
    cases hloop
    exact ⟨by simp, nofun⟩
  | append_singleton acts a ih =>
    have hacts : ∀ b ∈ acts, b.isWithin := fun b hb ↦ hwithin b (List.mem_append_left _ hb)
    rw [← List.cons_append, steps?_append, Option.bind_eq_some_iff] at h
    obtain ⟨u, hu, hstep⟩ := h
    obtain ⟨l₀, handled, hunderway⟩ := underway_of_steps hacts hu
    exact (ih hacts hu hunderway.loop).step hunderway (hwithin a (by simp)) (steps?_singleton ▸ hstep)
      hloop

/-- What a loop has worked off when it ends is what was sent before it turned to its sinks. Of the
batches that were accepted after that none is, and only then is none lost. -/
theorem lost_eq_sentAfterTurn (p : Pipeline π τ) (s t : PipelineState π τ)
    (acts : List PipelineAction) (hwithin : ∀ a ∈ acts, a.isWithin)
    (h : p.steps? s (.start :: acts ++ [.finish]) = some t) :
    let handled := (sent acts).take (PipelineAction.taken acts)
    let lost := (sent acts).drop (PipelineAction.taken acts)
    handled = sentBeforeTurn acts ∧ lost = sentAfterTurn acts ∧
      t.bare = (p.flushFirst p.sinks.length (p.runAll s handled)).bare ∧
      (handled = sent acts ↔ sentAfterTurn acts = []) ∧
      ∀ batch, p.step? t (.send batch) = none ∧ p.send? t batch = none := by
  intro handled lost
  rw [steps?_append, Option.bind_eq_some_iff] at h
  obtain ⟨u, hu, hfinish⟩ := h
  obtain ⟨l, handled', hunderway⟩ := underway_of_steps hwithin hu
  obtain rfl : handled' = handled := hunderway.handled_eq
  have hturning := turning_of_steps hwithin hu hunderway.loop
  obtain ⟨hloop, hbare, -⟩ := hunderway.finish (steps?_singleton ▸ hfinish)
  have hturned : acts.any (·.isTurn) := by
    rw [steps?_singleton, step?_eq_some_iff hunderway.loop] at hfinish
    cases hfinish with
    | finish n hphase => exact hturning.phase.1 ⟨n, hphase⟩
  have htaken : PipelineAction.taken acts = (sentBeforeTurn acts).length := hturning.taken hturned
  have hhandled : handled = sentBeforeTurn acts := by
    simp only [handled, htaken, sent_eq_append acts, List.take_left]
  have hlost : lost = sentAfterTurn acts := by
    simp only [lost, htaken, sent_eq_append acts, List.drop_left]
  refine ⟨hhandled, hlost, hbare, ?_, fun batch ↦ ⟨?_, ?_⟩⟩
  · rw [hhandled, sent_eq_append acts, List.self_eq_append_right]
  · simp [step?, hloop]
  · simp [send?, hloop]

/-- One batch is sent before the loop turns to its sink, which keeps what the processor makes of it, and
one after it. -/
theorem lost_beside_handled :
    let r : Record := .log { timestamp := ⟨0, 0⟩, service := "orders", body := "retrying" }
    let tagged : Record := r.withAttributes (r.attributes.insert "tags" "late")
    let tagging : Processor Unit :=
      { info := { name := "tagging" }
        process := fun x batch ↦
          ⟨x, batch.map (fun r ↦ r.withAttributes (r.attributes.insert "tags" "late")), []⟩ }
    let keeping : Sink (List Record) :=
      { info := { name := "keeping" }, write := fun kept batch ↦ (kept ++ batch, .ok ()) }
    let p : Pipeline Unit (List Record) := { processors := [tagging], sinks := [keeping] }
    let s : PipelineState Unit (List Record) := { processing := (), storing := [] }
    let acts : List PipelineAction := [.send [r], .signal, .heed, .take, .dry, .send [r, r], .flush]
    (∀ a ∈ acts, a.isWithin) ∧ ∃ t, p.steps? s (.start :: acts ++ [.finish]) = some t ∧
      t.storing = [tagged] ∧ (sent acts).drop (PipelineAction.taken acts) = [[r, r]] := by
  intro r tagged tagging keeping p s acts
  have hwithin : ∀ a ∈ acts, a.isWithin := by decide
  obtain ⟨t, ht, hstoring⟩ :
      ∃ t, p.steps? s (.start :: acts ++ [.finish]) = some t ∧ t.storing = [tagged] := ⟨_, rfl, rfl⟩
  have hlost := (lost_eq_sentAfterTurn p s t acts hwithin ht).2.1
  exact ⟨hwithin, t, ht, hstoring, hlost⟩

/-- A batch that is accepted between the last look into the queue and the end is not handled. -/
theorem accepted_while_flushing :
    let r : Record := .log { timestamp := ⟨0, 0⟩, service := "orders", body := "retrying" }
    let counting : Sink Nat := { info := { name := "counting" }, write := fun t _ ↦ (t + 1, .ok ()) }
    let p : Pipeline Unit Nat := { processors := [], sinks := [counting] }
    let s : PipelineState Unit Nat := { processing := (), storing := 0 }
    let acts : List PipelineAction := [.signal, .heed, .dry, .send [r], .flush]
    ∃ t, p.steps? s (.start :: acts ++ [.finish]) = some t ∧ sent acts = [[r]] ∧
      PipelineAction.taken acts = 0 ∧ t.storing = 0 ∧ t.loop.isNone :=
  ⟨_, rfl, rfl, rfl, rfl, rfl⟩

end Pipeline

end FlowCorrelation
