import FlowCorrelation.Proofs.Cause.Incident
import Mathlib.Algebra.BigOperators.Group.Finset.Basic
import Mathlib.Algebra.BigOperators.Group.Finset.Piecewise
import Mathlib.Data.List.Induction

namespace FlowCorrelation

/-- Changes the element at an index; there is no result where a list has no such element. -/
def modifyAt? {α : Type} (f : α → α) (i : Nat) (l : List α) : Option (List α) :=
  if i < l.length then some (l.modify i f) else none

theorem modifyAt?_map_range {α : Type} (f : α → α) (g : Nat → α) {n i : Nat} (hi : i < n) :
    modifyAt? f i ((List.range n).map g) =
      some ((List.range n).map (fun j ↦ if i = j then f (g j) else g j)) := by
  rw [modifyAt?, List.length_map, List.length_range, if_pos hi, Option.some.injEq]
  apply List.ext_getElem
  · simp
  · intro j hj hj'
    simp [List.getElem_modify]

/-- How much ended in a bucket, and how many errors are among it. -/
structure Tally where
  total : Nat := 0
  errors : Nat := 0
deriving DecidableEq, Repr

namespace Tally

def add (t : Tally) (e : Ending) : Tally := ⟨t.total + 1, t.errors + e.isError.toNat⟩

/-- The share of errors, if anything ended. -/
def share? {K : Type} [Div K] [NatCast K] (t : Tally) : Option K :=
  if t.total = 0 then none else some ((t.errors : K) / (t.total : K))

theorem exists_share?_iff {K : Type} [Div K] [NatCast K] {t : Tally} :
    (∃ y : K, t.share? = some y) ↔ 0 < t.total := by
  rw [← Option.isSome_iff_exists, share?]
  split
  · rename_i hzero
    simp [hzero]
  · rename_i hpos
    simpa using Nat.pos_of_ne_zero hpos

end Tally

namespace Buckets

variable {b : Buckets} {s : Signals} {endings : List Ending}

/-- Counts one ending after the other. There is no result where an ending has the index of no bucket. -/
def tallies? (b : Buckets) (endings : List Ending) : Option (List Tally) :=
  endings.foldlM (fun tallies e ↦ modifyAt? (·.add e) (b.index e.time) tallies)
    (List.replicate b.count {})

def tallyOf (b : Buckets) (endings : List Ending) (i : Nat) : Tally where
  total := endings.countP (fun e ↦ b.index e.time = i)
  errors := endings.countP (fun e ↦ b.index e.time = i && e.isError)

theorem tallyOf_concat (b : Buckets) (endings : List Ending) (e : Ending) (i : Nat) :
    b.tallyOf (endings ++ [e]) i =
      if b.index e.time = i then (b.tallyOf endings i).add e else b.tallyOf endings i := by
  by_cases hi : b.index e.time = i <;> cases herror : e.isError <;>
    simp [tallyOf, Tally.add, List.countP_append, hi, herror]

/-- The pass always comes to an end, and leaves the tally of each bucket. -/
theorem tallies?_eq (b : Buckets) (endings : List Ending) :
    b.tallies? endings = some ((List.range b.count).map (b.tallyOf endings)) := by
  induction endings using List.reverseRecOn with
  | nil =>
    have hnone : b.tallyOf [] = fun _ ↦ {} := rfl
    rw [hnone, List.map_const', List.length_range]
    rfl
  | append_singleton endings e ih =>
    have hstep : b.tallies? (endings ++ [e]) =
        (b.tallies? endings).bind (modifyAt? (·.add e) (b.index e.time)) := by
      simp [tallies?]
    rw [hstep, ih, Option.bind_some, modifyAt?_map_range _ _ (b.index_lt e.time)]
    exact congrArg some (List.map_congr_left (fun i _ ↦ (b.tallyOf_concat endings e i).symm))

theorem sum_total_tallyOf (b : Buckets) (endings : List Ending) :
    ∑ i ∈ Finset.range b.count, (b.tallyOf endings i).total = endings.length := by
  induction endings with
  | nil => simp [tallyOf]
  | cons e endings ih =>
    simp only [tallyOf, List.countP_cons, decide_eq_true_eq] at ih ⊢
    rw [Finset.sum_add_distrib, ih, Finset.sum_ite_eq, if_pos (Finset.mem_range.2 (b.index_lt e.time)),
      List.length_cons]

section

variable {K : Type} [Div K] [NatCast K]

theorem length_outcomes (b : Buckets) (endings : List Ending) :
    (b.outcomes endings : List (Option K)).length = b.count := by
  rw [outcomes, List.length_map, List.length_range]

theorem outcome_eq_share? (b : Buckets) (endings : List Ending) (i : Nat) :
    (b.outcome endings i : Option K) = (b.tallyOf endings i).share? := by
  have hempty : (endings.filter (fun e ↦ b.index e.time = i)).isEmpty ↔
      (b.tallyOf endings i).total = 0 := by
    rw [List.isEmpty_iff, ← List.length_eq_zero_iff, ← List.countP_eq_length_filter]
    rfl
  have herrors : (endings.filter (fun e ↦ b.index e.time = i)).countP (·.isError) =
      (b.tallyOf endings i).errors := by
    rw [List.countP_filter]
    simp only [tallyOf, Bool.and_comm]
  rw [outcome, Tally.share?, herrors, ← List.countP_eq_length_filter]
  exact if_congr hempty rfl rfl

theorem outcomes_eq_map_share? (b : Buckets) (endings : List Ending) :
    (b.outcomes endings : List (Option K)) =
      ((List.range b.count).map (b.tallyOf endings)).map Tally.share? := by
  rw [outcomes, List.map_map]
  exact List.map_congr_left (fun i _ ↦ b.outcome_eq_share? endings i)

end

end Buckets

namespace Signals

variable {s : Signals} {endings : List Ending}

theorem countP_endings (h : s.endings? = some endings) (p : Ending → Bool) :
    endings.countP p =
      s.spans.countP (fun x ↦ x.ending?.any p) + s.logs.countP (fun x ↦ p x.ending) := by
  obtain ⟨ends, hends, rfl⟩ := Option.map_eq_some_iff.1 h
  rw [List.countP_append, countP_of_mapM hends, List.countP_map]
  rfl

theorem length_endings (h : s.endings? = some endings) :
    endings.length = s.spans.length + s.logs.length := by
  obtain ⟨ends, hends, rfl⟩ := Option.map_eq_some_iff.1 h
  rw [List.length_append, length_of_mapM hends, List.length_map]

theorem exists_ending_iff (h : s.endings? = some endings) {P : Ending → Prop} :
    (∃ e ∈ endings, P e) ↔
      (∃ x ∈ s.spans, ∃ e, x.ending? = some e ∧ P e) ∨ ∃ x ∈ s.logs, P x.ending := by
  obtain ⟨ends, hends, rfl⟩ := Option.map_eq_some_iff.1 h
  simp only [List.mem_append, or_and_right, exists_or, List.mem_map, exists_exists_and_eq_and]
  refine or_congr_left ?_
  constructor
  · rintro ⟨e, he, hP⟩
    obtain ⟨x, hx, he⟩ := (mem_mapM_iff hends).1 he
    exact ⟨x, hx, e, he, hP⟩
  · rintro ⟨x, hx, e, he, hP⟩
    exact ⟨e, (mem_mapM_iff hends).2 ⟨x, hx, he⟩, hP⟩

end Signals

end FlowCorrelation
