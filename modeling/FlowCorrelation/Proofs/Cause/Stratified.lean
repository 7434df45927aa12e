import FlowCorrelation.Proofs.Numeral.Mean
import Mathlib.Algebra.Order.BigOperators.Group.Finset
import Mathlib.Data.List.Perm.Basic
import Mathlib.Tactic.Linarith

namespace FlowCorrelation

variable {K : Type}

def overlaps (arms : List Bool → Bool → List K) (s : List Bool) : Bool :=
  !(arms s true).isEmpty && !(arms s false).isEmpty

/-- The strata that overlap. -/
def overlapping (arms : List Bool → Bool → List K) (strata : List (List Bool)) : Finset (List Bool) :=
  strata.toFinset.filter (fun s ↦ overlaps arms s)

def stratumSize (arms : List Bool → Bool → List K) (s : List Bool) : Nat :=
  (arms s true).length + (arms s false).length

/-- The difference of the means, weighted by the sizes of the strata. -/
def stratifiedDifference [Field K] (arms : List Bool → Bool → List K) (strata : Finset (List Bool)) : K :=
  (∑ s ∈ strata, (stratumSize arms s : K) * (mean (arms s true) - mean (arms s false))) /
    ∑ s ∈ strata, (stratumSize arms s : K)

def adjustedEffect [Field K] (arms : List Bool → Bool → List K) (strata : List (List Bool)) : Option K :=
  if overlapping arms strata = ∅ then none
  else some (stratifiedDifference arms (overlapping arms strata))

section

variable {arms arms' : List Bool → Bool → List K} {strata strata' : List (List Bool)} {s : List Bool}

theorem overlaps_iff : overlaps arms s ↔ arms s true ≠ [] ∧ arms s false ≠ [] := by
  simp [overlaps]

theorem mem_overlapping : s ∈ overlapping arms strata ↔
    s ∈ strata ∧ arms s true ≠ [] ∧ arms s false ≠ [] := by
  rw [overlapping, Finset.mem_filter, List.mem_toFinset, overlaps_iff]

theorem stratumSize_pos (hs : s ∈ overlapping arms strata) : 0 < stratumSize arms s :=
  Nat.add_pos_left (List.length_pos_of_ne_nil (mem_overlapping.1 hs).2.1) _

theorem overlapping_congr (h : ∀ s, arms s true ≠ [] → (s ∈ strata ↔ s ∈ strata')) :
    overlapping arms strata = overlapping arms strata' := by
  ext s
  rw [mem_overlapping, mem_overlapping]
  exact and_congr_left (fun hs ↦ h s hs.1)

variable [Field K]

theorem adjustedEffect_eq_none_iff (h : ∀ s, arms s true ≠ [] → s ∈ strata) :
    adjustedEffect arms strata = none ↔ ∀ s, arms s true = [] ∨ arms s false = [] := by
  have hempty : adjustedEffect arms strata = none ↔ overlapping arms strata = ∅ := by
    rw [adjustedEffect]
    split <;> simp [*]
  rw [hempty, Finset.eq_empty_iff_forall_notMem]
  refine forall_congr' (fun s ↦ ?_)
  rw [mem_overlapping, ← and_assoc, and_iff_right_of_imp (h s), not_and_or, not_not, not_not]

/-- The differences of the means lie between minus one and one if the outcomes are shares, and so does
their mean. -/
theorem stratifiedDifference_bounds [LinearOrder K] [IsStrictOrderedRing K]
    (hunit : ∀ s t, ∀ y ∈ arms s t, 0 ≤ y ∧ y ≤ 1) (hsome : overlapping arms strata ≠ ∅) :
    -1 ≤ stratifiedDifference arms (overlapping arms strata) ∧
      stratifiedDifference arms (overlapping arms strata) ≤ 1 := by
  have hmean (s : List Bool) (t : Bool) : 0 ≤ mean (arms s t) ∧ mean (arms s t) ≤ 1 :=
    ⟨mean_nonneg (fun y hy ↦ (hunit s t y hy).1), mean_le_one (fun y hy ↦ (hunit s t y hy).2)⟩
  have hsize (s : List Bool) : 0 ≤ (stratumSize arms s : K) := Nat.cast_nonneg _
  have hpos : 0 < ∑ s ∈ overlapping arms strata, (stratumSize arms s : K) :=
    Finset.sum_pos (fun s hs ↦ Nat.cast_pos.2 (stratumSize_pos hs))
      (Finset.nonempty_iff_ne_empty.2 hsome)
  rw [stratifiedDifference]
  constructor
  · rw [le_div_iff₀ hpos, neg_one_mul, ← Finset.sum_neg_distrib]
    refine Finset.sum_le_sum (fun s _ ↦ ?_)
    have hlow : -1 ≤ mean (arms s true) - mean (arms s false) := by
      linarith [(hmean s true).1, (hmean s false).2]
    linarith [mul_le_mul_of_nonneg_left hlow (hsize s)]
  · rw [div_le_one hpos]
    refine Finset.sum_le_sum (fun s _ ↦ mul_le_of_le_one_right (hsize s) ?_)
    linarith [(hmean s true).2, (hmean s false).1]

/-- What is the same all over each stratum has no effect. -/
theorem stratifiedDifference_eq_zero [CharZero K]
    (hconst : ∀ s, ∃ c : K, ∀ t, ∀ y ∈ arms s t, y = c) :
    stratifiedDifference arms (overlapping arms strata) = 0 := by
  rw [stratifiedDifference, Finset.sum_eq_zero, zero_div]
  intro s hs
  obtain ⟨-, htreated, hcontrol⟩ := mem_overlapping.1 hs
  obtain ⟨c, hc⟩ := hconst s
  rw [mean_eq_of_forall_eq htreated (hc true), mean_eq_of_forall_eq hcontrol (hc false), sub_self,
    mul_zero]

theorem adjustedEffect_perm (harms : ∀ s t, (arms s t).Perm (arms' s t))
    (hstrata : ∀ s, s ∈ strata ↔ s ∈ strata') :
    adjustedEffect arms strata = adjustedEffect arms' strata' := by
  have hoverlapping : overlapping arms strata = overlapping arms' strata' := by
    ext s
    rw [mem_overlapping, mem_overlapping, hstrata, ne_eq, ne_eq, ← List.perm_nil, ← List.perm_nil,
      (harms s true).congr_left, (harms s false).congr_left, List.perm_nil, List.perm_nil]
  have hsize (s : List Bool) : stratumSize arms s = stratumSize arms' s := by
    rw [stratumSize, stratumSize, (harms s true).length_eq, (harms s false).length_eq]
  have hmean (s : List Bool) (t : Bool) : mean (arms s t) = mean (arms' s t) := mean_perm (harms s t)
  simp only [adjustedEffect, stratifiedDifference, hoverlapping, hsize, hmean]

theorem adjustedEffect_map {f : List Bool → List Bool} (hf : Set.InjOn f {s | s ∈ strata})
    (harms : ∀ s ∈ strata, ∀ t, arms' (f s) t = arms s t) :
    adjustedEffect arms' (strata.map f) = adjustedEffect arms strata := by
  have hoverlapping : overlapping arms' (strata.map f) = (overlapping arms strata).image f := by
    ext s
    simp only [mem_overlapping, Finset.mem_image, List.mem_map]
    constructor
    · rintro ⟨⟨r, hr, rfl⟩, h⟩
      rw [harms r hr, harms r hr] at h
      exact ⟨r, ⟨hr, h⟩, rfl⟩
    · rintro ⟨r, ⟨hr, h⟩, rfl⟩
      rw [harms r hr, harms r hr]
      exact ⟨⟨r, hr, rfl⟩, h⟩
  have hinj : Set.InjOn f (overlapping arms strata) :=
    hf.mono (fun s hs ↦ (mem_overlapping.1 hs).1)
  have harm (s : List Bool) (hs : s ∈ overlapping arms strata) (t : Bool) : arms' (f s) t = arms s t :=
    harms s (mem_overlapping.1 hs).1 t
  have hdifference : stratifiedDifference arms' ((overlapping arms strata).image f) =
      stratifiedDifference arms (overlapping arms strata) := by
    rw [stratifiedDifference, Finset.sum_image hinj, Finset.sum_image hinj, stratifiedDifference]
    refine congrArg₂ (· / ·) ?_ ?_ <;>
      exact Finset.sum_congr rfl (fun s hs ↦ by simp only [stratumSize, harm s hs])
  simp only [adjustedEffect, hoverlapping, Finset.image_eq_empty, hdifference]

end

end FlowCorrelation
