import FlowCorrelation.Cause.Effect
import FlowCorrelation.Proofs.Cause.Counting
import FlowCorrelation.Proofs.Numeral.Mean

namespace FlowCorrelation

def Signals.HasError (s : Signals) : Prop := (∃ x ∈ s.spans, x.isError) ∨ ∃ x ∈ s.logs, x.isError

theorem Signals.exists_error_iff {s : Signals} {endings : List Ending} (h : s.endings? = some endings) :
    (∃ e ∈ endings, e.isError) ↔ s.HasError := by
  rw [exists_ending_iff h]
  refine or_congr_left ⟨?_, ?_⟩
  · rintro ⟨x, hx, e, he, herror⟩
    obtain ⟨t, -, rfl⟩ := Option.map_eq_some_iff.1 he
    exact ⟨x, hx, herror⟩
  · rintro ⟨x, hx, herror⟩
    obtain ⟨ends, hends, -⟩ := Option.map_eq_some_iff.1 h
    obtain ⟨e, he⟩ := exists_of_mem_mapM hends hx
    obtain ⟨t, -, rfl⟩ := Option.map_eq_some_iff.1 he
    exact ⟨x, hx, _, he, herror⟩

namespace Buckets

variable {K : Type} [Field K] {b : Buckets} {endings : List Ending} {e : Ending} {i : Nat} {y : K}

theorem some_mem_outcomes : some y ∈ b.outcomes endings ↔
    ∃ i < b.count, b.outcome endings i = some y := by
  rw [outcomes, List.mem_map]
  simp only [List.mem_range]

theorem exists_outcome (b : Buckets) (he : e ∈ endings) :
    ∃ y : K, b.outcome endings (b.index e.time) = some y := by
  have hmem : e ∈ endings.filter (fun x ↦ b.index x.time = b.index e.time) :=
    List.mem_filter.2 ⟨he, decide_eq_true rfl⟩
  exact ⟨_, if_neg (fun hempty ↦ List.ne_nil_of_mem hmem (List.isEmpty_iff.1 hempty))⟩

variable [LinearOrder K] [IsStrictOrderedRing K]

theorem outcome_bounds (h : b.outcome endings i = some y) :
    0 ≤ y ∧ y ≤ 1 ∧ (0 < y ↔ ∃ e ∈ endings, b.index e.time = i ∧ e.isError) := by
  obtain ⟨hsome, h⟩ := Option.ite_none_left_eq_some.1 h
  obtain rfl := Option.some.inj h
  set here := endings.filter (fun e ↦ b.index e.time = i)
  have hlength : 0 < (here.length : K) :=
    Nat.cast_pos.2 (List.length_pos_of_ne_nil (mt List.isEmpty_iff.2 hsome))
  refine ⟨div_nonneg (Nat.cast_nonneg _) hlength.le,
    (div_le_one hlength).2 (Nat.cast_le.2 List.countP_le_length), ?_⟩
  rw [div_pos_iff_of_pos_right hlength, Nat.cast_pos, List.countP_pos_iff]
  simp only [here, List.mem_filter, decide_eq_true_eq, and_assoc]

theorem observed_bounds (hy : y ∈ (b.outcomes endings).filterMap id) : 0 ≤ y ∧ y ≤ 1 := by
  obtain ⟨o, ho, rfl⟩ := List.mem_filterMap.1 hy
  obtain ⟨i, -, hi⟩ := some_mem_outcomes.1 ho
  exact ⟨(outcome_bounds hi).1, (outcome_bounds hi).2.1⟩

theorem eq_zero_of_mem_outcomes (h : ¬ ∃ e ∈ endings, e.isError) (hy : some y ∈ b.outcomes endings) :
    y = 0 := by
  obtain ⟨i, -, hi⟩ := some_mem_outcomes.1 hy
  obtain ⟨hnonneg, -, hpos⟩ := outcome_bounds hi
  refine le_antisymm (not_lt.1 (fun hlt ↦ h ?_)) hnonneg
  exact (hpos.1 hlt).imp (fun _ he ↦ ⟨he.1, he.2.2⟩)

theorem exists_positive_outcome : (∃ y : K, y ∈ (b.outcomes endings).filterMap id ∧ 0 < y) ↔
    ∃ e ∈ endings, e.isError := by
  constructor
  · rintro ⟨y, hy, hpos⟩
    obtain ⟨o, ho, rfl⟩ := List.mem_filterMap.1 hy
    obtain ⟨i, -, hi⟩ := some_mem_outcomes.1 ho
    obtain ⟨e, he, -, herror⟩ := (outcome_bounds hi).2.2.1 hpos
    exact ⟨e, he, herror⟩
  · rintro ⟨e, he, herror⟩
    obtain ⟨y, hy⟩ := exists_outcome (K := K) b he
    exact ⟨y, List.mem_filterMap.2 ⟨some y, some_mem_outcomes.2 ⟨_, b.index_lt e.time, hy⟩, rfl⟩,
      (outcome_bounds hy).2.2.2 ⟨e, he, rfl, herror⟩⟩

end Buckets

theorem Estimate.observedRate_ofTreatments {K : Type} [Field K] [LinearOrder K] [IsStrictOrderedRing K]
    [Scalar K] (g : ServiceGraph) (outcomes : List (Option K)) (treatments : List Treatment) :
    (ofTreatments g outcomes treatments).observedRate = mean (outcomes.filterMap id) := by
  rw [ofTreatments]
  cases h : outcomes.filterMap id with
  | nil => simp [mean]
  | cons y observed => simp [runningMean_eq_mean]

end FlowCorrelation
