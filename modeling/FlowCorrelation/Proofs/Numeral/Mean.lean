import FlowCorrelation.Numeral.Scalar
import Mathlib.Algebra.BigOperators.Group.List.Basic
import Mathlib.Algebra.Order.BigOperators.Group.List
import Mathlib.Algebra.Order.Field.Basic
import Mathlib.Data.List.Induction
import Mathlib.Tactic.FieldSimp
import Mathlib.Tactic.Ring

namespace FlowCorrelation

variable {K : Type} [Field K]

def mean (l : List K) : K := l.sum / (l.length : K)

theorem runningMean_eq_mean [CharZero K] (l : List K) : runningMean l = mean l := by
  -- after some values the count and the mean of these are kept
  have hkept : l.foldl (fun (p : Nat × K) x ↦ (p.1 + 1, p.2 + (x - p.2) / ((p.1 + 1 : Nat) : K))) (0, 0) =
      (l.length, mean l) := by
    induction l using List.reverseRecOn with
    | nil => simp [mean]
    | append_singleton l x ih =>
      rw [List.foldl_append, ih]
      simp only [List.foldl_cons, List.foldl_nil, mean, List.length_append, List.length_singleton,
        List.sum_append, List.sum_singleton, Prod.mk.injEq, true_and]
      rcases Nat.eq_zero_or_pos l.length with hzero | hpos
      · obtain rfl := List.length_eq_zero_iff.1 hzero
        simp
      · have hlength : (l.length : K) ≠ 0 := Nat.cast_ne_zero.2 hpos.ne'
        have hsucc : (l.length : K) + 1 ≠ 0 := Nat.cast_add_one_ne_zero l.length
        push_cast
        field_simp
        ring
  exact congrArg Prod.snd hkept

theorem mean_perm {l l' : List K} (h : l.Perm l') : mean l = mean l' := by
  rw [mean, mean, h.sum_eq, h.length_eq]

theorem mean_eq_of_forall_eq [CharZero K] {l : List K} {c : K} (hl : l ≠ []) (h : ∀ x ∈ l, x = c) :
    mean l = c := by
  have hlength : (l.length : K) ≠ 0 := Nat.cast_ne_zero.2 (List.length_pos_of_ne_nil hl).ne'
  rw [mean, List.eq_replicate_of_mem h, List.sum_replicate, List.length_replicate, nsmul_eq_mul,
    mul_div_cancel_left₀ c hlength]

variable [LinearOrder K] [IsStrictOrderedRing K] {l : List K}

theorem mean_nonneg (h : ∀ x ∈ l, 0 ≤ x) : 0 ≤ mean l :=
  div_nonneg (List.sum_nonneg h) (Nat.cast_nonneg _)

theorem mean_le_one (h : ∀ x ∈ l, x ≤ 1) : mean l ≤ 1 := by
  have hsum : l.sum ≤ (l.length : K) := by
    simpa [nsmul_eq_mul] using List.sum_le_card_nsmul l 1 h
  exact div_le_one_of_le₀ hsum (Nat.cast_nonneg _)

theorem mean_pos_iff (h : ∀ x ∈ l, 0 ≤ x) : 0 < mean l ↔ ∃ x ∈ l, 0 < x := by
  constructor
  · intro hpos
    by_contra hnone
    have hzero : l.sum = 0 := List.sum_eq_zero (fun x hx ↦
      le_antisymm (not_lt.1 (fun hlt ↦ hnone ⟨x, hx, hlt⟩)) (h x hx))
    rw [mean, hzero, zero_div] at hpos
    exact lt_irrefl _ hpos
  · rintro ⟨x, hx, hpos⟩
    have hlength : 0 < (l.length : K) := Nat.cast_pos.2 (List.length_pos_of_mem hx)
    exact div_pos (hpos.trans_le (List.single_le_sum h x hx)) hlength

end FlowCorrelation
