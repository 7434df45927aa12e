import FlowCorrelation.Cause.Effect
import FlowCorrelation.Proofs.Cause.Stratified
import Mathlib.Algebra.BigOperators.Ring.Finset
import Mathlib.Algebra.Order.Ring.Rat

namespace FlowCorrelation

variable {K : Type}

/-- The outcomes of the treated, or of the other, buckets of a stratum. -/
def armOutcomes (outcomes : List (Option K)) (treated : List Bool) (strata : List (List Bool))
    (stratum : List Bool) (t : Bool) : List K :=
  (outcomes.zip (treated.zip strata)).filterMap (fun (y, t', s) ↦ if s = stratum ∧ t' = t then y else none)

section

variable {outcomes : List (Option K)} {treated : List Bool} {strata : List (List Bool)}

def Observation.ofBucket? (b : Option K × Bool × List Bool) : Option (Observation K) :=
  b.1.map (fun y ↦ ⟨y, b.2.1, b.2.2⟩)

theorem observations?_eq_some (ht : treated.length = outcomes.length)
    (hs : strata.length = outcomes.length) : observations? outcomes treated strata =
      some ((outcomes.zip (treated.zip strata)).filterMap Observation.ofBucket?) := by
  induction outcomes generalizing treated strata with
  | nil => rfl
  | cons y outcomes ih =>
    obtain ⟨t, treated, rfl⟩ := List.exists_cons_of_length_eq_add_one ht
    obtain ⟨s, strata, rfl⟩ := List.exists_cons_of_length_eq_add_one hs
    have hrest := ih (Nat.succ.inj ht) (Nat.succ.inj hs)
    cases y with
    | none =>
      rw [List.zip_cons_cons, List.zip_cons_cons, List.filterMap_cons_none rfl]
      exact hrest
    | some y =>
      rw [List.zip_cons_cons, List.zip_cons_cons, observations?, hrest]
      rfl

theorem arm_observations (outcomes : List (Option K)) (treated : List Bool) (strata : List (List Bool))
    (stratum : List Bool) (t : Bool) :
    arm ((outcomes.zip (treated.zip strata)).filterMap Observation.ofBucket?) stratum t =
      armOutcomes outcomes treated strata stratum t := by
  rw [arm, armOutcomes, List.filter_filterMap, List.map_filterMap]
  refine congrArg (List.filterMap · _) (funext (fun ⟨y, t', s⟩ ↦ ?_))
  cases y with
  | none => simp [Observation.ofBucket?]
  | some y => by_cases h : s = stratum ∧ t' = t <;> simp [Observation.ofBucket?, Option.filter, h]

end

section

variable [Field K] {l l' : List (Observation K)} {order : List (List Bool)}

/-- The effect that is found where the strata are visited in some order. -/
def effectAlong (order : List (List Bool)) (l : List (Observation K)) : Option K :=
  let parts := order.filterMap (stratumEffect? l)
  if parts.isEmpty then none
  else some (parts.foldl (fun sum p ↦ sum + (p.size : K) * p.difference) 0 /
    ((parts.map (·.size)).foldl (· + ·) 0 : Nat))

theorem effectAlong_strata (l : List (Observation K)) : effectAlong (strata l) l = backdoorEffect l := rfl

theorem stratumEffect?_eq (l : List (Observation K)) (s : List Bool) : stratumEffect? l s =
    if overlaps (arm l) s then some ⟨stratumSize (arm l) s,
      runningMean (arm l s true) - runningMean (arm l s false)⟩ else none := by
  cases htreated : arm l s true <;> cases hcontrol : arm l s false <;>
    simp [stratumEffect?, overlaps, stratumSize, htreated, hcontrol]

theorem filterMap_stratumEffect? (order : List (List Bool)) (l : List (Observation K)) :
    order.filterMap (stratumEffect? l) = (order.filter (overlaps (arm l))).map (fun s ↦
      ⟨stratumSize (arm l) s, runningMean (arm l s true) - runningMean (arm l s false)⟩) := by
  induction order with
  | nil => rfl
  | cons s order ih =>
    rw [List.filterMap_cons, stratumEffect?_eq, ih, List.filter_cons]
    cases overlaps (arm l) s <;> rfl

/-- However the strata are visited, each once, the effect is that of the definition. -/
theorem effectAlong_eq_adjustedEffect [CharZero K] (hnodup : order.Nodup) :
    effectAlong order l = adjustedEffect (arm l) order := by
  have hkept : overlapping (arm l) order = (order.filter (overlaps (arm l))).toFinset :=
    (List.toFinset_filter order (overlaps (arm l))).symm
  have hkeptNodup := hnodup.filter (overlaps (arm l))
  rw [effectAlong, filterMap_stratumEffect?, adjustedEffect, stratifiedDifference, hkept]
  generalize order.filter (overlaps (arm l)) = kept at hkeptNodup ⊢
  simp only [List.isEmpty_iff, List.map_eq_nil_iff, List.toFinset_eq_empty_iff]
  refine if_congr Iff.rfl rfl (congrArg some ?_)
  -- no stratum comes twice, so the sums along the list are sums over its set
  rw [← Nat.cast_sum, List.sum_toFinset _ hkeptNodup, List.sum_toFinset _ hkeptNodup]
  simp only [List.sum_eq_foldl, List.foldl_map, runningMean_eq_mean]

end

theorem nodup_eraseDups {α : Type} [BEq α] [LawfulBEq α] : (l : List α) → l.eraseDups.Nodup
  | [] => List.nodup_nil
  | a :: l => by
    rw [List.eraseDups_cons, List.nodup_cons]
    exact ⟨by simp [List.mem_eraseDups], nodup_eraseDups _⟩
termination_by l => l.length
decreasing_by exact Nat.lt_succ_of_le (List.length_filter_le _ _)

theorem mem_strata {l : List (Observation K)} {s : List Bool} :
    s ∈ strata l ↔ ∃ o ∈ l, o.stratum = s := by
  rw [strata, List.mem_eraseDups, List.mem_map]

section

variable {outcomes ys : List (Option K)} {treated ts : List Bool} {strata ss : List (List Bool)}
  {s : List Bool} {t : Bool} {y : K}

theorem mem_armOutcomes : y ∈ armOutcomes outcomes treated strata s t ↔
    (some y, t, s) ∈ outcomes.zip (treated.zip strata) := by
  rw [armOutcomes, List.mem_filterMap]
  constructor
  · rintro ⟨⟨y', t', s'⟩, hmem, h⟩
    obtain ⟨⟨rfl, rfl⟩, rfl⟩ := Option.ite_none_right_eq_some.1 h
    exact hmem
  · exact fun hmem ↦ ⟨_, hmem, if_pos ⟨rfl, rfl⟩⟩

theorem mem_strata_of_armOutcomes (h : armOutcomes outcomes treated strata s t ≠ []) : s ∈ strata := by
  obtain ⟨y, hy⟩ := List.exists_mem_of_ne_nil _ h
  exact (List.of_mem_zip (List.of_mem_zip (mem_armOutcomes.1 hy)).2).2

theorem armOutcomes_perm (h : (outcomes.zip (treated.zip strata)).Perm (ys.zip (ts.zip ss)))
    (s : List Bool) (t : Bool) :
    (armOutcomes outcomes treated strata s t).Perm (armOutcomes ys ts ss s t) := h.filterMap _

theorem map_stratum_zip (ht : treated.length = outcomes.length)
    (hs : strata.length = outcomes.length) :
    (outcomes.zip (treated.zip strata)).map (·.2.2) = strata := by
  have hzip : (treated.zip strata).length ≤ outcomes.length := by
    rw [List.length_zip]
    omega
  calc (outcomes.zip (treated.zip strata)).map (·.2.2)
      = ((outcomes.zip (treated.zip strata)).map Prod.snd).map Prod.snd := (List.map_map).symm
    _ = (treated.zip strata).map Prod.snd := by rw [List.map_snd_zip hzip]
    _ = strata := List.map_snd_zip (hs.trans ht.symm).le

theorem armOutcomes_map {f : List Bool → List Bool} (hf : Set.InjOn f {s | s ∈ strata})
    (hs : s ∈ strata) : armOutcomes outcomes treated (strata.map f) (f s) t =
      armOutcomes outcomes treated strata s t := by
  rw [armOutcomes, List.zip_map_right, List.zip_map_right, List.filterMap_map, armOutcomes]
  refine List.filterMap_congr (fun ⟨y, t', s'⟩ hmem ↦ ?_)
  have hs' : s' ∈ strata := (List.of_mem_zip (List.of_mem_zip hmem).2).2
  exact if_congr (and_congr_left' (hf.eq_iff hs' hs)) rfl rfl

/-- The effect that is found in lists of one length is that of the definition, in whatever order the
strata are visited. -/
theorem effectAlong_of_lists [Field K] [CharZero K] (ht : treated.length = outcomes.length)
    (hs : strata.length = outcomes.length) {l : List (Observation K)}
    (hl : observations? outcomes treated strata = some l) {order : List (List Bool)}
    (horder : order.Perm (FlowCorrelation.strata l)) :
    effectAlong order l = adjustedEffect (armOutcomes outcomes treated strata) strata := by
  obtain rfl := Option.some.inj ((observations?_eq_some ht hs).symm.trans hl)
  have harms := funext (fun s ↦ funext (arm_observations outcomes treated strata s))
  have hoverlapping : overlapping (armOutcomes outcomes treated strata) order =
      overlapping (armOutcomes outcomes treated strata) strata := by
    refine overlapping_congr (fun s hne ↦ iff_of_true ?_ (mem_strata_of_armOutcomes hne))
    rw [← arm_observations, arm, ne_eq, List.map_eq_nil_iff] at hne
    obtain ⟨o, ho⟩ := List.exists_mem_of_ne_nil _ hne
    obtain ⟨hmem, hstratum⟩ := List.mem_filter.1 ho
    exact horder.mem_iff.2 (mem_strata.2 ⟨o, hmem, of_decide_eq_true (Bool.and_eq_true_iff.1 hstratum).1⟩)
  rw [effectAlong_eq_adjustedEffect (horder.nodup_iff.2 (nodup_eraseDups _)), harms, adjustedEffect,
    hoverlapping, adjustedEffect]

/-- The effect that is found in equally long lists of outcomes, treatments and strata is none exactly if
no stratum has treated buckets with an outcome and others. Else it is the mean of the differences within
the strata that have both, weighted by their sizes. It lies between minus one and one, is zero if each
stratum has but one outcome, and changes neither with the order of the buckets nor with that in which
strata are visited, nor if strata get other names. -/
theorem backdoorEffect_is_stratified [Field K] [LinearOrder K] [IsStrictOrderedRing K]
    (outcomes : List (Option K)) (treated : List Bool) (strata : List (List Bool))
    (ht : treated.length = outcomes.length) (hs : strata.length = outcomes.length)
    (hunit : ∀ y, some y ∈ outcomes → 0 ≤ y ∧ y ≤ 1) :
    let arms := armOutcomes outcomes treated strata
    let effect? (ys : List (Option K)) (ts : List Bool) (ss : List (List Bool)) :=
      (observations? ys ts ss).map backdoorEffect
    ∃ effect : Option K, effect? outcomes treated strata = some effect ∧
      (effect = none ↔ ∀ s, arms s true = [] ∨ arms s false = []) ∧
      (∀ x, effect = some x → x = stratifiedDifference arms (overlapping arms strata) ∧
        -1 ≤ x ∧ x ≤ 1 ∧ ((∀ s, ∃ y, ∀ t, ∀ z ∈ arms s t, z = y) → x = 0)) ∧
      (∀ ys ts ss, ts.length = ys.length → ss.length = ys.length →
        (outcomes.zip (treated.zip strata)).Perm (ys.zip (ts.zip ss)) → effect? ys ts ss = some effect) ∧
      (∀ f, Set.InjOn f {s | s ∈ strata} → effect? outcomes treated (strata.map f) = some effect) ∧
      (∀ l, observations? outcomes treated strata = some l →
        ∀ order, order.Perm (FlowCorrelation.strata l) → effectAlong order l = effect) := by
  intro arms effect?
  have heffect (ys : List (Option K)) (ts : List Bool) (ss : List (List Bool))
      (ht : ts.length = ys.length) (hs : ss.length = ys.length) :
      effect? ys ts ss = some (adjustedEffect (armOutcomes ys ts ss) ss) := by
    have hl := observations?_eq_some ht hs
    exact (congrArg (Option.map backdoorEffect) hl).trans
      (congrArg some (effectAlong_of_lists ht hs hl (List.Perm.refl _)))
  have harms (s : List Bool) (t : Bool) (y : K) (hy : y ∈ arms s t) : 0 ≤ y ∧ y ≤ 1 :=
    hunit y (List.of_mem_zip (mem_armOutcomes.1 hy)).1
  refine ⟨adjustedEffect arms strata, heffect _ _ _ ht hs,
    adjustedEffect_eq_none_iff (fun s ↦ mem_strata_of_armOutcomes), fun x hx ↦ ?_,
    fun ys ts ss ht' hs' hperm ↦ ?_, fun f hf ↦ ?_, fun l hl order ↦ effectAlong_of_lists ht hs hl⟩
  · obtain ⟨hsome, hx⟩ := Option.ite_none_left_eq_some.1 hx
    obtain rfl := Option.some.inj hx
    exact ⟨rfl, (stratifiedDifference_bounds harms hsome).1, (stratifiedDifference_bounds harms hsome).2,
      stratifiedDifference_eq_zero⟩
  · have hstrata : strata.Perm ss := by
      rw [← map_stratum_zip ht hs, ← map_stratum_zip ht' hs']
      exact hperm.map _
    rw [heffect ys ts ss ht' hs']
    exact congrArg some (adjustedEffect_perm (armOutcomes_perm hperm) (fun _ ↦ hstrata.mem_iff)).symm
  · rw [heffect _ _ _ ht ((List.length_map f).trans hs)]
    exact congrArg some (adjustedEffect_map hf (fun s hs _ ↦ armOutcomes_map hf hs))

/-- A treatment that makes a difference of a half in one stratum and of one in a smaller one, beside a
stratum without others and a bucket without an outcome. -/
theorem effect_of_two_strata :
    let outcomes : List (Option ℚ) := [some 1, some 0, some 1, none, some 1, some 0, some 1]
    let treated := [true, false, false, true, true, false, true]
    let strata := [[true], [true], [true], [true], [false], [false], []]
    let negated := strata.map (List.map (!·))
    (∀ y, some y ∈ outcomes → 0 ≤ y ∧ y ≤ 1) ∧
      (observations? outcomes treated strata).map backdoorEffect = some (some (7 / 10)) ∧
      (observations? outcomes treated negated).map backdoorEffect = some (some (7 / 10)) := by
  intro outcomes treated strata negated
  have hobserved : ∀ y ∈ outcomes.filterMap id, 0 ≤ y ∧ y ≤ 1 := by decide +kernel
  have hunit (y : ℚ) (hy : some y ∈ outcomes) : 0 ≤ y ∧ y ≤ 1 :=
    hobserved y (List.mem_filterMap.2 ⟨some y, hy, rfl⟩)
  obtain ⟨effect, heffect, -, -, -, hnames, -⟩ :=
    backdoorEffect_is_stratified outcomes treated strata rfl rfl hunit
  have hvalue : (observations? outcomes treated strata).map backdoorEffect = some (some (7 / 10)) := by
    decide +kernel
  have hnegated := hnames _ (List.map_injective_iff.2 (fun _ _ ↦ Bool.not_inj)).injOn
  exact ⟨hunit, hvalue, hnegated.trans (heffect.symm.trans hvalue)⟩

end

end FlowCorrelation
