import FlowCorrelation.Proofs.Cause.Adjustment
import FlowCorrelation.Proofs.Cause.ErrorRate
import FlowCorrelation.Proofs.Cause.Ranking
import FlowCorrelation.Proofs.Numeral.Exact

namespace FlowCorrelation

section

variable {K : Type} [Field K] [LinearOrder K]

theorem clampUnit_le {x y : K} (hy : 0 ≤ y) (h : x ≤ y) : clampUnit x ≤ y := by
  unfold clampUnit
  split_ifs with hneg hlarge
  exacts [hy, hlarge.le.trans h, h]

variable [IsStrictOrderedRing K]

theorem clampUnit_nonneg (x : K) : 0 ≤ clampUnit x := by
  unfold clampUnit
  split_ifs with hneg hlarge
  exacts [le_rfl, zero_le_one, not_lt.1 hneg]

theorem clampUnit_le_one (x : K) : clampUnit x ≤ 1 := by
  unfold clampUnit
  split_ifs with hneg hlarge
  exacts [zero_le_one, le_rfl, not_lt.1 hlarge]

end

section

variable {K : Type} [Field K] [LinearOrder K]

/-- A candidate has a positive effect, in buckets that have an outcome, and some of it is believed, but
not all. It is a series with an anomalous point. Had it never been active the error rate would have been
no higher. -/
structure Candidate.IsSound (c : Candidate K) (e : Estimate K) (s : Signals) (anomaly : AnomalySettings) :
    Prop where
  effect_pos : 0 < c.effect
  effect_le_one : c.effect ≤ 1
  one_le_treated : 1 ≤ c.treatedBuckets
  treated_le_observed : c.treatedBuckets ≤ e.observedBuckets
  confidence_pos : 0 < c.confidence
  confidence_lt_effect : c.confidence < c.effect
  isAnomalous : s.IsAnomalous anomaly c.series
  counterfactual_nonneg : 0 ≤ e.counterfactualRate c
  counterfactual_le_observed : e.counterfactualRate c ≤ e.observedRate

/-- The error rate is a share, and positive exactly if there is an error. The candidates are sound, in
order, and made by a series each; without an error there are none. -/
structure Estimate.IsSound (e : Estimate K) (s : Signals) (anomaly : AnomalySettings) : Prop where
  rate_nonneg : 0 ≤ e.observedRate
  rate_le_one : e.observedRate ≤ 1
  rate_pos_iff : 0 < e.observedRate ↔ s.HasError
  isSound_candidates : ∀ c ∈ e.candidates, c.IsSound e s anomaly
  pairwise_candidates : e.candidates.Pairwise Candidate.Precedes
  nodup_series : (e.candidates.map Candidate.series).Nodup
  candidates_eq_nil : ¬ s.HasError → e.candidates = []

end

theorem Buckets.length_active {b : Buckets} {s : Signals} {anomaly : AnomalySettings} {t : Treatment}
    (ht : t ∈ b.treatments s anomaly) : t.active.length = b.count := by
  obtain ⟨key, -, rfl⟩ := List.mem_map.1 ht
  rw [List.length_map, List.length_range]

namespace Estimate

theorem treatedBuckets_le {K : Type} {outcomes : List (Option K)} {active : List Bool}
    (h : active.length = outcomes.length) :
    treatedBuckets outcomes active ≤ (outcomes.filterMap id).length :=
  calc treatedBuckets outcomes active
      ≤ (outcomes.zip active).countP (fun x ↦ x.1.isSome) :=
        List.countP_mono_left (fun _ _ h ↦ (Bool.and_eq_true_iff.1 h).1)
    _ = ((outcomes.zip active).map Prod.fst).countP Option.isSome := by
        rw [List.countP_map]
        rfl
    _ = outcomes.countP Option.isSome := by rw [List.map_fst_zip h.ge]
    _ = (outcomes.filterMap id).length := List.length_filterMap_eq_countP.symm

theorem length_strataOf (treatments : List Treatment) (services : List String) (count : Nat) :
    (strataOf treatments services count).length = count := by
  rw [strataOf, List.length_map, List.length_range]

variable {K : Type} [Field K] [LinearOrder K] [IsStrictOrderedRing K] {g : ServiceGraph}
  {outcomes : List (Option K)} {treatments : List Treatment} {c : Candidate K} {e : Estimate K}

theorem counterfactualRate_bounds (hrate : 0 ≤ e.observedRate) (heffect : 0 ≤ c.effect) :
    0 ≤ e.counterfactualRate c ∧ e.counterfactualRate c ≤ e.observedRate := by
  rw [counterfactualRate]
  split_ifs with hnone
  · exact ⟨hrate, le_rfl⟩
  · have hshare : 0 ≤ (c.treatedBuckets : K) / (e.observedBuckets : K) :=
      div_nonneg (Nat.cast_nonneg _) (Nat.cast_nonneg _)
    exact ⟨clampUnit_nonneg _, clampUnit_le hrate (sub_le_self _ (mul_nonneg heffect hshare))⟩

variable [Scalar K]

theorem confidence_bounds
    (hexp : ∀ n : Nat, 1 ≤ n → 0 < Scalar.exp (-(n : K)) ∧ Scalar.exp (-(n : K)) < 1)
    {effect : K} (heffect : 0 < effect) {n : Nat} (hn : 1 ≤ n) :
    0 < confidence effect n ∧ confidence effect n < effect := by
  obtain ⟨hpos, hlt⟩ := hexp n hn
  exact ⟨mul_pos heffect (sub_pos.2 hlt), mul_lt_of_lt_one_right heffect (sub_lt_self 1 hpos)⟩

theorem candidate?_eq_none_of_zero {t : Treatment} (ht : t.active.length = outcomes.length)
    (hzero : ∀ y, some y ∈ outcomes → y = 0) : candidate? g outcomes treatments t = none := by
  refine Option.eq_none_iff_forall_ne_some.2 (fun c hc ↦ ?_)
  obtain ⟨-, x, hx, hpos, -⟩ := candidate?_eq_some_iff.1 hc
  obtain ⟨l, hl, heffect⟩ := Option.bind_eq_some_iff.1 hx
  -- what was found is the stratified difference, here one of means of zeros
  have hadjusted := effectAlong_of_lists ht (length_strataOf _ _ _) hl (List.Perm.refl _)
  rw [effectAlong_strata, heffect, eq_comm, adjustedEffect] at hadjusted
  obtain ⟨-, hadjusted⟩ := Option.ite_none_left_eq_some.1 hadjusted
  have harms (s : List Bool) : ∃ y : K, ∀ t', ∀ z ∈ armOutcomes outcomes t.active
      (strataOf treatments (g.callers t.series.service) outcomes.length) s t', z = y :=
    ⟨0, fun t' z hz ↦ hzero z (List.of_mem_zip (mem_armOutcomes.1 hz)).1⟩
  rw [← Option.some.inj hadjusted, stratifiedDifference_eq_zero harms] at hpos
  exact absurd hpos (clampUnit_le le_rfl le_rfl).not_gt

variable {s : Signals} {b : Buckets} {anomaly : AnomalySettings}

theorem isSound_of_mem_candidates
    (hexp : ∀ n : Nat, 1 ≤ n → 0 < Scalar.exp (-(n : K)) ∧ Scalar.exp (-(n : K)) < 1)
    (h : ofSignals? s g b anomaly = some e) (hrate : 0 ≤ e.observedRate) (hc : c ∈ e.candidates) :
    c.IsSound e s anomaly := by
  have hanomalous := isAnomalous_of_mem_candidates h hc
  obtain ⟨endings, -, rfl⟩ := Option.map_eq_some_iff.1 h
  obtain ⟨t, ht, hcandidate⟩ := mem_candidates.1 hc
  obtain ⟨htreated, x, -, hpos, rfl⟩ := candidate?_eq_some_iff.1 hcandidate
  have hone := Nat.one_le_iff_ne_zero.2 htreated
  have hlength : t.active.length = (b.outcomes endings : List (Option K)).length :=
    (Buckets.length_active ht).trans (b.length_outcomes endings).symm
  exact {
    effect_pos := hpos
    effect_le_one := clampUnit_le_one x
    one_le_treated := hone
    treated_le_observed := treatedBuckets_le hlength
    confidence_pos := (confidence_bounds hexp hpos hone).1
    confidence_lt_effect := (confidence_bounds hexp hpos hone).2
    isAnomalous := hanomalous
    counterfactual_nonneg := (counterfactualRate_bounds hrate hpos.le).1
    counterfactual_le_observed := (counterfactualRate_bounds hrate hpos.le).2 }

theorem candidates_eq_nil_of_no_error (h : ofSignals? s g b anomaly = some e) (herror : ¬ s.HasError) :
    e.candidates = [] := by
  obtain ⟨endings, hendings, rfl⟩ := Option.map_eq_some_iff.1 h
  refine List.eq_nil_iff_forall_not_mem.2 (fun c hc ↦ ?_)
  obtain ⟨t, ht, hcandidate⟩ := mem_candidates.1 hc
  have hlength : t.active.length = (b.outcomes endings : List (Option K)).length :=
    (Buckets.length_active ht).trans (b.length_outcomes endings).symm
  have hzero (y : K) (hy : some y ∈ b.outcomes endings) : y = 0 :=
    Buckets.eq_zero_of_mem_outcomes (mt (Signals.exists_error_iff hendings).1 herror) hy
  cases hcandidate.symm.trans (candidate?_eq_none_of_zero hlength hzero)

/-- Whatever the records, the graph, the buckets and the settings, there is an estimate unless a span ends
outside the calendar, and it is sound. -/
theorem isSound_of_signals
    (hexp : ∀ n : Nat, 1 ≤ n → 0 < Scalar.exp (-(n : K)) ∧ Scalar.exp (-(n : K)) < 1)
    (hrank : ∀ x y : K, Scalar.atMost x y ↔ x ≤ y)
    (s : Signals) (g : ServiceGraph) (b : Buckets) (anomaly : AnomalySettings) :
    let estimate : Option (Estimate K) := ofSignals? s g b anomaly
    (estimate = none ↔ ∃ x ∈ s.spans, x.endTime? = none) ∧
      ∀ e, estimate = some e → e.IsSound s anomaly := by
  intro estimate
  refine ⟨Option.map_eq_none_iff.trans Signals.endings?_eq_none_iff, fun e he ↦ ?_⟩
  obtain ⟨endings, hendings, hofTreatments⟩ := Option.map_eq_some_iff.1 he
  have hobserved (y : K) (hy : y ∈ (b.outcomes endings).filterMap id) : 0 ≤ y ∧ y ≤ 1 :=
    Buckets.observed_bounds hy
  have hmean : e.observedRate = mean ((b.outcomes endings : List (Option K)).filterMap id) := by
    rw [← hofTreatments, observedRate_ofTreatments]
  have hnonneg : 0 ≤ e.observedRate := hmean ▸ mean_nonneg (fun y hy ↦ (hobserved y hy).1)
  have hinOrder := b.pairwise_treatments s anomaly
  exact {
    rate_nonneg := hnonneg
    rate_le_one := hmean ▸ mean_le_one (fun y hy ↦ (hobserved y hy).2)
    rate_pos_iff := by
      rw [hmean, mean_pos_iff (fun y hy ↦ (hobserved y hy).1), Buckets.exists_positive_outcome,
        Signals.exists_error_iff hendings]
    isSound_candidates := fun c hc ↦ isSound_of_mem_candidates hexp he hnonneg hc
    pairwise_candidates := hofTreatments ▸ pairwise_candidates hrank hinOrder
    nodup_series := hofTreatments ▸ nodup_series hinOrder
    candidates_eq_nil := candidates_eq_nil_of_no_error he }

/-- A service fails while its queue is anomalous and succeeds later. The queue is a candidate, and all that
is promised holds of it. -/
theorem candidate_of_anomalous_queue :
    let failure : SpanRecord :=
      { timestamp := ⟨0, 0⟩, service := "orders", name := "reserve", status := .error }
    let success : SpanRecord := { timestamp := ⟨2, 0⟩, service := "orders", name := "reserve" }
    let queue : MetricPoint :=
      { timestamp := ⟨0, 0⟩, service := "orders", name := "queue", value := 1, anomalyScore := some 9 }
    let signals : Signals := ⟨[failure, success], [], [queue]⟩
    let b : Buckets := ⟨⟨0, 0⟩, 1000, 4, by decide⟩
    ∃ e : Estimate ℝ, ofSignals? signals {} b {} = some e ∧ 0 < e.observedRate ∧
      ∃ c ∈ e.candidates, c.series = ⟨"orders", "queue"⟩ ∧ c.IsSound e signals {} := by
  intro failure success queue signals b
  have hexp (n : Nat) (hn : 1 ≤ n) : 0 < Scalar.exp (-(n : ℝ)) ∧ Scalar.exp (-(n : ℝ)) < 1 :=
    ⟨Real.exp_pos _, Real.exp_lt_one_iff.2 (neg_lt_zero.2 (Nat.cast_pos.2 hn))⟩
  obtain ⟨-, hsound⟩ := isSound_of_signals hexp (fun _ _ ↦ decide_eq_true_iff) signals {} b {}
  have hendings : signals.endings? = some [⟨⟨0, 0⟩, true⟩, ⟨⟨2, 0⟩, false⟩] := by decide +kernel
  have htreatments : b.treatments signals {} =
      [⟨⟨"orders", "queue"⟩, [true, true, false, false]⟩] := by decide +kernel
  have houtcomes : b.outcomes [⟨⟨0, 0⟩, true⟩, ⟨⟨2, 0⟩, false⟩] = [some (1 : ℝ), none, some 0, none] := by
    have hfirst : b.index ⟨0, 0⟩ = 0 := by decide +kernel
    have hlast : b.index ⟨2, 0⟩ = 2 := by decide +kernel
    simp [Buckets.outcomes, Buckets.outcome, b, List.range_succ, hfirst, hlast]
  have hestimate : ofSignals? signals {} b {} = some (ofTreatments {} [some (1 : ℝ), none, some 0, none]
      [⟨⟨"orders", "queue"⟩, [true, true, false, false]⟩]) := by
    rw [ofSignals?, hendings, htreatments, Option.map_some, houtcomes]
  have heffect : backdoorEffect [(⟨1, true, []⟩ : Observation ℝ), ⟨0, false, []⟩] = some 1 := by
    have hpart : stratumEffect? [(⟨1, true, []⟩ : Observation ℝ), ⟨0, false, []⟩] [] = some ⟨2, 1⟩ := by
      simp [stratumEffect?, arm, runningMean]
    have hstrata : strata [(⟨1, true, []⟩ : Observation ℝ), ⟨0, false, []⟩] = [[]] := rfl
    simp [backdoorEffect, hstrata, hpart]
  obtain ⟨c, hc⟩ : ∃ c, candidate? {} [some (1 : ℝ), none, some 0, none]
      [⟨⟨"orders", "queue"⟩, [true, true, false, false]⟩]
      ⟨⟨"orders", "queue"⟩, [true, true, false, false]⟩ = some c := by
    have hstrata : strataOf [⟨⟨"orders", "queue"⟩, [true, true, false, false]⟩]
        (ServiceGraph.callers {} "orders") 4 = [[], [], [], []] := by decide +kernel
    refine ⟨_, candidate?_eq_some_iff.2 ⟨by decide, 1, ?_, by norm_num [clampUnit], rfl⟩⟩
    rw [List.length_cons, List.length_cons, List.length_cons, List.length_singleton, hstrata]
    exact heffect
  have hs := hsound _ hestimate
  have hmem := mem_candidates.2 ⟨_, List.mem_singleton_self _, hc⟩
  exact ⟨_, hestimate, hs.rate_pos_iff.2 (Or.inl ⟨failure, List.mem_cons_self, rfl⟩), c, hmem,
    series_eq_of_candidate? hc, hs.isSound_candidates c hmem⟩

end Estimate

end FlowCorrelation
