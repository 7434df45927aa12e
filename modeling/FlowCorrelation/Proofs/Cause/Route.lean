import FlowCorrelation.Proofs.Cause.Path
import Mathlib.Algebra.Order.Monoid.Unbundled.Basic
import Mathlib.Data.List.Chain

namespace FlowCorrelation

variable {ι K : Type} [Zero K] [Add K] {weight : ι → ι → K}

def routeWeight (weight : ι → ι → K) (r : List ι) : K :=
  (r.zipWith weight r.tail).foldl (· + ·) 0

theorem routeWeight_concat (r : List ι) (i j : ι) :
    routeWeight weight (r ++ [i, j]) = routeWeight weight (r ++ [i]) + weight i j := by
  have hlinks : (r ++ [i, j]).zipWith weight (r ++ [i, j]).tail =
      (r ++ [i]).zipWith weight (r ++ [i]).tail ++ [weight i j] := by
    induction r with
    | nil => rfl
    | cons a r ih => cases r <;> simp_all
  rw [routeWeight, hlinks, List.foldl_append]
  rfl

variable [LinearOrder K]

namespace Path

variable {ps : List (Path ι K)} {a : ι}

theorem weight_le_improve (best q : Path ι K) : best.weight ≤ (improve weight a best q).weight := by
  simp only [improve]
  split
  case isTrue h => exact h.2.le
  case isFalse => exact le_rfl

theorem zero_le_weight_reaching (ps : List (Path ι K)) (a : ι) :
    0 ≤ (reaching weight ps a).weight := by
  induction ps using List.reverseRecOn with
  | nil => exact le_rfl
  | append_singleton ps q ih =>
    rw [reaching_concat]
    exact ih.trans (weight_le_improve _ q)

theorem zero_le_weight_of_mem_all {l : List ι} {q : Path ι K} (hq : q ∈ all weight l) :
    0 ≤ q.weight := by
  induction l using List.reverseRecOn with
  | nil => cases hq
  | append_singleton l a ih =>
    rcases mem_all_concat.1 hq with hq | rfl
    · exact ih hq
    · exact zero_le_weight_reaching _ a

theorem weight_le_reaching {q : Path ι K} (hq : q ∈ ps) (hlink : 0 < weight q.last a) :
    q.weight + weight q.last a ≤ (reaching weight ps a).weight := by
  induction ps using List.reverseRecOn with
  | nil => cases hq
  | append_singleton ps q' ih =>
    rw [reaching_concat]
    rcases List.mem_append.1 hq with hq | hq
    · exact (ih hq).trans (weight_le_improve _ _)
    · obtain rfl := List.mem_singleton.1 hq
      simp only [improve]
      split
      case isTrue => exact le_rfl
      case isFalse h => exact not_lt.1 (fun hlt ↦ h ⟨hlink, hlt⟩)

end Path

variable [LinearOrder ι] {p : ι → Prop} {r : List ι} {i j : ι}

structure IsRoute (weight : ι → ι → K) (p : ι → Prop) (r : List ι) : Prop where
  stops : ∀ i ∈ r, p i
  links : r.IsChain (fun i j ↦ i < j ∧ 0 < weight i j)

omit [Add K] in
theorem isRoute_singleton : IsRoute weight p [i] ↔ p i :=
  ⟨fun h ↦ h.stops i (List.mem_singleton_self i),
    fun h ↦ ⟨fun _ hj ↦ List.mem_singleton.1 hj ▸ h, List.isChain_singleton i⟩⟩

omit [Add K] in
theorem isRoute_concat : IsRoute weight p (r ++ [i, j]) ↔
    IsRoute weight p (r ++ [i]) ∧ p j ∧ i < j ∧ 0 < weight i j := by
  constructor
  · rintro ⟨hstops, hlinks⟩
    obtain ⟨hlinks, hlink, -⟩ := List.isChain_append_cons_cons.1 hlinks
    refine ⟨⟨fun k hk ↦ hstops k ?_, hlinks⟩, hstops j (by simp), hlink⟩
    simp only [List.mem_append, List.mem_cons, List.not_mem_nil, or_false] at hk ⊢
    exact hk.imp_right Or.inl
  · rintro ⟨⟨hstops, hlinks⟩, hj, hlink⟩
    refine ⟨fun k hk ↦ ?_,
      List.isChain_append_cons_cons.2 ⟨hlinks, hlink, List.isChain_singleton j⟩⟩
    rw [List.append_cons, List.mem_append, List.mem_singleton] at hk
    rcases hk with hk | rfl
    · exact hstops k hk
    · exact hj

structure IsHeaviestTo (weight : ι → ι → K) (p : ι → Prop) (j : ι) (r : List ι) : Prop where
  route : IsRoute weight p (r ++ [j])
  heaviest : ∀ r', IsRoute weight p (r' ++ [j]) →
    routeWeight weight (r' ++ [j]) ≤ routeWeight weight (r ++ [j])

/-- The earliest stop from which a heaviest route comes to `j`. There is none if all that comes to
`j` is no heavier than a start there. -/
def IsPredecessor (weight : ι → ι → K) (p : ι → Prop) (i j : ι) : Prop :=
  (∃ r, IsHeaviestTo weight p j (r ++ [i]) ∧ 0 < routeWeight weight (r ++ [i, j])) ∧
    ∀ r k, IsHeaviestTo weight p j (r ++ [k]) → i ≤ k

theorem IsPredecessor.lt (h : IsPredecessor weight p i j) : i < j := by
  obtain ⟨⟨r, hr, -⟩, -⟩ := h
  exact (isRoute_concat.1 (List.append_assoc r [i] [j] ▸ hr.route)).2.2.1

theorem isPredecessor_of_first (hr : IsHeaviestTo weight p j (r ++ [i]))
    (hpos : 0 < routeWeight weight (r ++ [i, j]))
    (hfirst : ∀ r' k, IsRoute weight p (r' ++ [k, j]) → k < i →
      routeWeight weight (r' ++ [k, j]) < routeWeight weight (r ++ [i, j])) :
    IsPredecessor weight p i j := by
  refine ⟨⟨r, hr, hpos⟩, fun r' k hk ↦ not_lt.1 (fun hlt ↦ ?_)⟩
  have hless := hfirst r' k (List.append_assoc r' [k] [j] ▸ hk.route) hlt
  have hmost := hk.heaviest (r ++ [i]) hr.route
  rw [List.append_assoc, List.append_assoc] at hmost
  exact absurd (hmost.trans_lt hless) (lt_irrefl _)

/-- Going from predecessor to predecessor comes to an end. -/
theorem wellFounded_isPredecessor [WellFoundedLT ι] : WellFounded (IsPredecessor weight p) :=
  Subrelation.wf IsPredecessor.lt wellFounded_lt

structure IsWalk (weight : ι → ι → K) (p : ι → Prop) (r : List ι) : Prop where
  steps : r.IsChain (IsPredecessor weight p)
  start : ∀ j ∈ r.head?, ∀ i, ¬ IsPredecessor weight p i j

/-- The heaviest of all routes, the one with the earliest end of equally heavy ones, and on it the
earliest predecessors. -/
structure IsPrimaryRoute (weight : ι → ι → K) (p : ι → Prop) (r : List ι) (j : ι) : Prop where
  route : IsRoute weight p (r ++ [j])
  heaviest : ∀ r' i, IsRoute weight p (r' ++ [i]) →
    routeWeight weight (r' ++ [i]) ≤ routeWeight weight (r ++ [j])
  earliest : ∀ r' i, IsRoute weight p (r' ++ [i]) →
    routeWeight weight (r' ++ [i]) = routeWeight weight (r ++ [j]) → j ≤ i
  walk : IsWalk weight p (r ++ [j])

namespace Path

structure IsBest (weight : ι → ι → K) (p : ι → Prop) (q : Path ι K) : Prop where
  route : IsRoute weight p q.toList
  weight_eq : q.weight = routeWeight weight q.toList
  heaviest : ∀ r, IsRoute weight p (r ++ [q.last]) → routeWeight weight (r ++ [q.last]) ≤ q.weight
  walk : IsWalk weight p q.toList

section

variable {ps : List (Path ι K)} {a : ι}

theorem reaching_cases (hps : ps.Pairwise (·.last < ·.last)) :
    reaching weight ps a = ⟨a, [], 0⟩ ∨
      ∃ q ∈ ps, 0 < weight q.last a ∧ 0 < (reaching weight ps a).weight ∧
        reaching weight ps a = ⟨a, q.last :: q.before, q.weight + weight q.last a⟩ ∧
        ∀ q' ∈ ps, q'.last < q.last → 0 < weight q'.last a →
          q'.weight + weight q'.last a < (reaching weight ps a).weight := by
  induction ps using List.reverseRecOn with
  | nil => exact Or.inl rfl
  | append_singleton ps q ih =>
    obtain ⟨hps, -, hlast⟩ := List.pairwise_append.1 hps
    by_cases hbetter : 0 < weight q.last a ∧
        (reaching weight ps a).weight < q.weight + weight q.last a
    · have heq : reaching weight (ps ++ [q]) a =
          ⟨a, q.last :: q.before, q.weight + weight q.last a⟩ := by
        rw [reaching_concat]
        exact if_pos hbetter
      refine Or.inr ⟨q, by simp, hbetter.1, ?_, heq, fun q' hq' hlt hlink ↦ ?_⟩
      · rw [heq]
        exact (zero_le_weight_reaching ps a).trans_lt hbetter.2
      · rw [heq]
        rcases List.mem_append.1 hq' with hq' | hq'
        · exact (weight_le_reaching hq' hlink).trans_lt hbetter.2
        · obtain rfl := List.mem_singleton.1 hq'
          exact absurd hlt (lt_irrefl _)
    · have heq : reaching weight (ps ++ [q]) a = reaching weight ps a := by
        rw [reaching_concat]
        exact if_neg hbetter
      rw [heq]
      refine (ih hps).imp_right ?_
      rintro ⟨first, hfirst, hlink, hpos, hfirstEq, hbefore⟩
      refine ⟨first, List.mem_append_left _ hfirst, hlink, hpos, hfirstEq, fun q' hq' hlt ↦ ?_⟩
      rcases List.mem_append.1 hq' with hq' | hq'
      · exact hbefore q' hq' hlt
      · obtain rfl := List.mem_singleton.1 hq'
        exact absurd hlt (hlast first hfirst q' (List.mem_singleton_self q')).asymm

end

theorem isBest_start (hj : p j) (h : ∀ r, IsRoute weight p (r ++ [j]) →
    routeWeight weight (r ++ [j]) ≤ 0) : IsBest weight p ⟨j, [], 0⟩ where
  route := isRoute_singleton.2 hj
  weight_eq := rfl
  heaviest := h
  walk := by
    refine ⟨List.isChain_singleton j, ?_⟩
    rintro k hk i ⟨⟨r, hr, hpos⟩, -⟩
    obtain rfl : j = k := Option.some.inj hk
    have hle := h _ hr.route
    rw [List.append_assoc] at hle
    exact absurd (hpos.trans_le hle) (lt_irrefl _)

theorem IsBest.extend {q : Path ι K} (hq : IsBest weight p q) (hj : p j) (hlt : q.last < j)
    (hlink : 0 < weight q.last j) (hpos : 0 < q.weight + weight q.last j)
    (h : ∀ r, IsRoute weight p (r ++ [j]) →
      routeWeight weight (r ++ [j]) ≤ q.weight + weight q.last j)
    (hfirst : ∀ r k, IsRoute weight p (r ++ [k, j]) → k < q.last →
      routeWeight weight (r ++ [k, j]) < q.weight + weight q.last j) :
    IsBest weight p ⟨j, q.last :: q.before, q.weight + weight q.last j⟩ := by
  have hroute : IsRoute weight p (q.before.reverse ++ [q.last, j]) :=
    isRoute_concat.2 ⟨q.toList_eq_concat ▸ hq.route, hj, hlt, hlink⟩
  have hweight : routeWeight weight (q.before.reverse ++ [q.last, j]) =
      q.weight + weight q.last j := by
    rw [routeWeight_concat, ← toList_eq_concat, hq.weight_eq]
  have hlist : (⟨j, q.last :: q.before, q.weight + weight q.last j⟩ : Path ι K).toList =
      q.before.reverse ++ [q.last, j] := by
    rw [toList_extend, toList_eq_concat, List.append_assoc]
    rfl
  have hheaviest : IsHeaviestTo weight p j (q.before.reverse ++ [q.last]) := by
    refine ⟨by rwa [List.append_assoc], fun r hr ↦ ?_⟩
    rw [List.append_assoc]
    exact (h r hr).trans_eq hweight.symm
  have hpredecessor : IsPredecessor weight p q.last j :=
    isPredecessor_of_first hheaviest (hweight ▸ hpos)
      (fun r k hr hk ↦ (hfirst r k hr hk).trans_eq hweight.symm)
  refine ⟨hlist ▸ hroute, hlist ▸ hweight.symm, h, ⟨?_, ?_⟩⟩
  · rw [hlist]
    exact List.isChain_append_cons_cons.2
      ⟨q.toList_eq_concat ▸ hq.walk.steps, hpredecessor, List.isChain_singleton j⟩
  · rw [toList_extend, List.head?_append_of_ne_nil _ (by simp [Path.toList])]
    exact hq.walk.start

theorem pairwise_last_all (weight : ι → ι → K) {l : List ι} (hl : l.Pairwise (· < ·)) :
    (all weight l).Pairwise (·.last < ·.last) := by
  rw [← map_last_all weight l] at hl
  exact List.pairwise_map.1 hl

/-- If the paths to all earlier stops are best, so is the one that is kept to the next. -/
theorem isBest_reaching [AddRightMono K] {l : List ι} {a : ι} (hl : l.Pairwise (· < ·)) (ha : p a)
    (hbelow : ∀ i ∈ l, i < a) (hall : ∀ i, p i → i < a → i ∈ l)
    (hbest : ∀ q ∈ all weight l, IsBest weight p q) :
    IsBest weight p (reaching weight (all weight l) a) := by
  set ps := all weight l
  have hnonneg : 0 ≤ (reaching weight ps a).weight := zero_le_weight_reaching ps a
  -- a route to `a` comes from some stop, and the path that is kept to that stop goes on to `a`
  have hvia (r : List ι) (k : ι) (hr : IsRoute weight p (r ++ [k, a])) :
      ∃ q ∈ ps, q.last = k ∧ 0 < weight q.last a ∧
        routeWeight weight (r ++ [k, a]) ≤ q.weight + weight q.last a := by
    obtain ⟨hr, -, hlt, hlink⟩ := isRoute_concat.1 hr
    obtain ⟨q, hq, rfl⟩ := exists_mem_all weight (hall k (hr.stops k (by simp)) hlt)
    refine ⟨q, hq, rfl, hlink, ?_⟩
    rw [routeWeight_concat]
    exact add_le_add_left ((hbest q hq).heaviest r hr) _
  have hmax (r : List ι) (hr : IsRoute weight p (r ++ [a])) :
      routeWeight weight (r ++ [a]) ≤ (reaching weight ps a).weight := by
    rcases r.eq_nil_or_concat' with rfl | ⟨r, k, rfl⟩
    · exact hnonneg
    · rw [List.append_assoc] at hr ⊢
      obtain ⟨q, hq, -, hlink, hle⟩ := hvia r k hr
      exact hle.trans (weight_le_reaching hq hlink)
  rcases reaching_cases (a := a) (pairwise_last_all weight hl) with
    heq | ⟨q, hq, hlink, hpos, heq, hfirst⟩
  · rw [heq] at hmax ⊢
    exact isBest_start ha hmax
  · rw [heq] at hmax hpos hfirst ⊢
    have hlt : q.last < a := hbelow _ (map_last_all weight l ▸ List.mem_map_of_mem hq)
    refine (hbest q hq).extend ha hlt hlink hpos hmax (fun r k hr hk ↦ ?_)
    obtain ⟨q', hq', rfl, hlink', hle⟩ := hvia r k hr
    exact hle.trans_lt (hfirst q' hq' hk hlink')

theorem isBest_of_mem_all [AddRightMono K] {l : List ι} (hl : l.Pairwise (· < ·))
    (hp : ∀ i ∈ l, p i) (hall : ∀ a ∈ l, ∀ i, p i → i < a → i ∈ l) {q : Path ι K}
    (hq : q ∈ all weight l) : IsBest weight p q := by
  induction l using List.reverseRecOn generalizing q with
  | nil => cases hq
  | append_singleton l a ih =>
    obtain ⟨hl, -, hbelow⟩ := List.pairwise_append.1 hl
    replace hbelow (i : ι) (hi : i ∈ l) : i < a := hbelow i hi a (List.mem_singleton_self a)
    have hearlier (b : ι) (hb : b ≤ a) (hbl : b ∈ l ++ [a]) (i : ι) (hi : p i) (hib : i < b) :
        i ∈ l := by
      refine (List.mem_append.1 (hall b hbl i hi hib)).resolve_right (fun hia ↦ ?_)
      rw [List.mem_singleton.1 hia] at hib
      exact absurd (hib.trans_le hb) (lt_irrefl _)
    have hbest (q : Path ι K) (hq : q ∈ all weight l) : IsBest weight p q :=
      ih hl (fun i hi ↦ hp i (List.mem_append_left _ hi))
        (fun b hb ↦ hearlier b (hbelow b hb).le (List.mem_append_left _ hb)) hq
    rcases mem_all_concat.1 hq with hq | rfl
    · exact hbest q hq
    · exact isBest_reaching hl (hp a (by simp)) hbelow (hearlier a le_rfl (by simp)) hbest

omit [Zero K] [Add K] in
theorem heaviest_spec {ps : List (Path ι K)} (hps : ps.Pairwise (·.last < ·.last)) {h : Path ι K}
    (hh : heaviest ps = some h) :
    ∀ q ∈ ps, q.weight ≤ h.weight ∧ (q.last < h.last → q.weight < h.weight) := by
  cases ps with
  | nil => cases hh
  | cons best ps =>
    obtain rfl := Option.some.inj hh
    clear hh
    induction ps generalizing best with
    | nil => exact fun q hq ↦ List.mem_singleton.1 hq ▸ ⟨le_rfl, fun hlt ↦ absurd hlt (lt_irrefl _)⟩
    | cons q ps ih =>
      obtain ⟨hbest, hps⟩ := List.pairwise_cons.1 hps
      have hq : best.last < q.last := hbest q List.mem_cons_self
      rw [List.foldl_cons]
      split
      case isTrue hle =>
        have hrest := ih best (List.pairwise_cons.2
          ⟨fun x hx ↦ hbest x (List.mem_cons_of_mem _ hx), (List.pairwise_cons.1 hps).2⟩)
        obtain ⟨hmax, hfirst⟩ := hrest best List.mem_cons_self
        rw [List.forall_mem_cons] at hrest ⊢
        exact ⟨hrest.1, List.forall_mem_cons.2
          ⟨⟨hle.trans hmax, fun hlt ↦ hle.trans_lt (hfirst (hq.trans hlt))⟩, hrest.2⟩⟩
      case isFalse hlt =>
        have hrest := ih q hps
        have hstrict := (not_le.1 hlt).trans_le (hrest q List.mem_cons_self).1
        exact List.forall_mem_cons.2 ⟨⟨hstrict.le, fun _ ↦ hstrict⟩, hrest⟩

end Path

theorem heaviestPath_spec {l : List ι} (hl : l.Pairwise (· < ·)) {h : Path ι K}
    (hh : heaviestPath weight l = some h) : h ∈ Path.all weight l ∧
      ∀ q ∈ Path.all weight l, q.weight ≤ h.weight ∧ (q.last < h.last → q.weight < h.weight) := by
  have hsorted := Path.pairwise_last_all weight hl
  rw [heaviestPath, Option.or_eq_some_iff] at hh
  rcases hh with hh | ⟨hnone, hh⟩
  · obtain ⟨hmem, hpos⟩ := List.mem_filter.1 (Path.mem_of_heaviest hh)
    have hspec := Path.heaviest_spec (hsorted.sublist List.filter_sublist) hh
    refine ⟨hmem, fun q hq ↦ ?_⟩
    by_cases hqpos : 0 < q.weight
    · exact hspec q (List.mem_filter.2 ⟨hq, decide_eq_true hqpos⟩)
    · have hlt := (not_lt.1 hqpos).trans_lt (of_decide_eq_true hpos)
      exact ⟨hlt.le, fun _ ↦ hlt⟩
  · -- no path has a link, so all weigh the same and the first one is taken
    have hzero (q : Path ι K) (hq : q ∈ Path.all weight l) : q.weight = 0 :=
      le_antisymm (not_lt.1 (fun hpos ↦ List.ne_nil_of_mem
        (List.mem_filter.2 ⟨hq, decide_eq_true hpos⟩) (Path.heaviest_eq_none_iff.1 hnone)))
        (Path.zero_le_weight_of_mem_all hq)
    have hmem := List.mem_of_head? hh
    refine ⟨hmem, fun q hq ↦ ⟨((hzero q hq).trans (hzero h hmem).symm).le, fun hlt ↦ ?_⟩⟩
    obtain ⟨rest, hrest⟩ := List.head?_eq_some_iff.1 hh
    rw [hrest] at hsorted hq
    rcases List.mem_cons.1 hq with rfl | hq
    · exact absurd hlt (lt_irrefl _)
    · exact absurd hlt ((List.pairwise_cons.1 hsorted).1 q hq).asymm

/-- What `heaviestPath` finds is the primary route. -/
theorem isPrimaryRoute_of_heaviestPath [AddRightMono K] {l : List ι} (hl : l.Pairwise (· < ·))
    (hp : ∀ i, i ∈ l ↔ p i) {h : Path ι K} (hh : heaviestPath weight l = some h) :
    IsPrimaryRoute weight p h.before.reverse h.last ∧
      h.weight = routeWeight weight h.toList := by
  obtain ⟨hmem, hspec⟩ := heaviestPath_spec hl hh
  have hbest {q : Path ι K} (hq : q ∈ Path.all weight l) : q.IsBest weight p :=
    Path.isBest_of_mem_all hl (fun i ↦ (hp i).1) (fun _ _ i hi _ ↦ (hp i).2 hi) hq
  have hvia (r : List ι) (i : ι) (hr : IsRoute weight p (r ++ [i])) :
      ∃ q ∈ Path.all weight l, q.last = i ∧ routeWeight weight (r ++ [i]) ≤ q.weight := by
    obtain ⟨q, hq, rfl⟩ := Path.exists_mem_all weight ((hp i).2 (hr.stops i (by simp)))
    exact ⟨q, hq, rfl, (hbest hq).heaviest r hr⟩
  have hweight := (hbest hmem).weight_eq
  refine ⟨⟨?_, fun r i hr ↦ ?_, fun r i hr heq ↦ ?_, ?_⟩, hweight⟩
  · exact h.toList_eq_concat ▸ (hbest hmem).route
  · obtain ⟨q, hq, -, hle⟩ := hvia r i hr
    rw [← h.toList_eq_concat, ← hweight]
    exact hle.trans (hspec q hq).1
  · obtain ⟨q, hq, rfl, hle⟩ := hvia r i hr
    rw [heq, ← h.toList_eq_concat, ← hweight] at hle
    exact not_lt.1 (fun hlt ↦ absurd (hle.trans_lt ((hspec q hq).2 hlt)) (lt_irrefl _))
  · exact h.toList_eq_concat ▸ (hbest hmem).walk

end FlowCorrelation
