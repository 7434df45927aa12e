import FlowCorrelation.Cause.Path
import Mathlib.Data.List.Induction

namespace FlowCorrelation

variable {α K : Type}

/-- Picking one of two over and over leaves one of all. -/
theorem foldl_mem_of_choice {pick : α → α → α} (hpick : ∀ a b, pick a b = a ∨ pick a b = b)
    (l : List α) (a : α) : l.foldl pick a ∈ a :: l := by
  induction l generalizing a with
  | nil => exact List.mem_singleton_self a
  | cons b l ih =>
    rw [List.foldl_cons]
    rcases List.mem_cons.1 (ih (pick a b)) with h | h
    · rw [h]
      rcases hpick a b with hab | hab <;> simp [hab]
    · exact List.mem_cons_of_mem _ (List.mem_cons_of_mem _ h)

namespace Path

theorem toList_extend (p : Path α K) (a : α) (w : K) :
    (⟨a, p.last :: p.before, w⟩ : Path α K).toList = p.toList ++ [a] :=
  List.reverse_cons

theorem toList_eq_concat (q : Path α K) : q.toList = q.before.reverse ++ [q.last] :=
  List.reverse_cons

def map {ι : Type} (f : ι → α) (p : Path ι K) : Path α K := ⟨f p.last, p.before.map f, p.weight⟩

@[simp] theorem toList_map {ι : Type} (f : ι → α) (p : Path ι K) :
    (p.map f).toList = p.toList.map f := by
  simp only [map, toList, List.map_reverse, List.map_cons]

section

variable [Zero K] [Add K] [LT K] [DecidableLT K] {weight : α → α → K} {l : List α} {a : α}

theorem sublist_improve {best p : Path α K} (hbest : best.toList.Sublist (l ++ [a]))
    (hp : p.toList.Sublist l) : (improve weight a best p).toList.Sublist (l ++ [a]) := by
  simp only [improve]
  split
  · rw [toList_extend]
    exact hp.append_right [a]
  · exact hbest

theorem sublist_reaching {ps : List (Path α K)} (hps : ∀ p ∈ ps, p.toList.Sublist l) :
    (reaching weight ps a).toList.Sublist (l ++ [a]) := by
  have hstart : (⟨a, [], 0⟩ : Path α K).toList.Sublist (l ++ [a]) :=
    List.sublist_append_right l [a]
  unfold reaching
  generalize (⟨a, [], 0⟩ : Path α K) = best at hstart
  induction ps generalizing best with
  | nil => exact hstart
  | cons p ps ih =>
    exact ih (fun q hq ↦ hps q (List.mem_cons_of_mem _ hq)) _
      (sublist_improve hstart (hps p List.mem_cons_self))

theorem reaching_concat (ps : List (Path α K)) (p : Path α K) (a : α) :
    reaching weight (ps ++ [p]) a = improve weight a (reaching weight ps a) p := by
  rw [reaching, List.foldl_append]
  rfl

theorem last_reaching (ps : List (Path α K)) (a : α) : (reaching weight ps a).last = a := by
  induction ps using List.reverseRecOn with
  | nil => rfl
  | append_singleton ps q ih =>
    rw [reaching_concat, improve]
    split
    · rfl
    · exact ih

theorem all_concat (l : List α) (a : α) :
    all weight (l ++ [a]) = all weight l ++ [reaching weight (all weight l) a] := by
  rw [all, List.foldl_append]
  rfl

theorem mem_all_concat {p : Path α K} : p ∈ all weight (l ++ [a]) ↔
    p ∈ all weight l ∨ p = reaching weight (all weight l) a := by
  rw [all_concat, List.mem_append, List.mem_singleton]

theorem length_all (weight : α → α → K) (l : List α) : (all weight l).length = l.length := by
  induction l using List.reverseRecOn with
  | nil => rfl
  | append_singleton l a ih => rw [all_concat, List.length_append, ih, List.length_append]; rfl

theorem map_last_all (weight : α → α → K) (l : List α) : (all weight l).map last = l := by
  induction l using List.reverseRecOn with
  | nil => rfl
  | append_singleton l a ih =>
    rw [all_concat, List.map_append, ih, List.map_singleton, last_reaching]

theorem exists_mem_all (weight : α → α → K) {l : List α} (ha : a ∈ l) :
    ∃ q ∈ all weight l, q.last = a := by
  rw [← map_last_all weight l] at ha
  exact List.mem_map.1 ha

theorem sublist_of_mem_all {p : Path α K} (hp : p ∈ all weight l) : p.toList.Sublist l := by
  induction l using List.reverseRecOn generalizing p with
  | nil => cases hp
  | append_singleton l a ih =>
    rcases mem_all_concat.1 hp with hp | rfl
    · exact (ih hp).trans (List.sublist_append_left l [a])
    · exact sublist_reaching (fun q hq ↦ ih hq)

variable {ι : Type} (f : ι → α)

theorem improve_map (i : ι) (best p : Path ι K) :
    improve weight (f i) (best.map f) (p.map f) =
      (improve (fun i j ↦ weight (f i) (f j)) i best p).map f := by
  simp only [improve, apply_ite (map f)]
  rfl

theorem reaching_map (ps : List (Path ι K)) (i : ι) :
    reaching weight (ps.map (map f)) (f i) =
      (reaching (fun i j ↦ weight (f i) (f j)) ps i).map f := by
  induction ps using List.reverseRecOn with
  | nil => rfl
  | append_singleton ps p ih =>
    rw [List.map_append, List.map_singleton, reaching_concat, ih, improve_map, ← reaching_concat]

theorem all_map (l : List ι) :
    all weight (l.map f) = (all (fun i j ↦ weight (f i) (f j)) l).map (map f) := by
  induction l using List.reverseRecOn with
  | nil => rfl
  | append_singleton l i ih =>
    rw [List.map_append, List.map_singleton, all_concat, all_concat, ih, reaching_map,
      List.map_append, List.map_singleton]

end

theorem mem_of_heaviest [LE K] [DecidableLE K] {ps : List (Path α K)} {p : Path α K}
    (h : heaviest ps = some p) : p ∈ ps := by
  cases ps with
  | nil => cases h
  | cons q ps =>
    obtain rfl := Option.some.inj h
    refine foldl_mem_of_choice (fun best q ↦ ?_) ps q
    split
    · exact Or.inl rfl
    · exact Or.inr rfl

theorem heaviest_eq_none_iff [LE K] [DecidableLE K] {ps : List (Path α K)} : heaviest ps = none ↔ ps = [] := by
  cases ps <;> simp [heaviest]

theorem heaviest_map [LE K] [DecidableLE K] {ι : Type} (f : ι → α) (ps : List (Path ι K)) :
    heaviest (ps.map (map f)) = (heaviest ps).map (map f) := by
  cases ps with
  | nil => rfl
  | cons p ps =>
    rw [List.map_cons, heaviest, List.foldl_map, heaviest, Option.map_some]
    refine congrArg some (List.foldl_hom (map f) (fun best q ↦ ?_))
    rw [apply_ite (map f)]
    rfl

end Path

variable [Zero K] [Add K] [LT K] [DecidableLT K] [LE K] [DecidableLE K] {weight : α → α → K}
  {l : List α}

theorem sublist_of_heaviestPath {p : Path α K} (h : heaviestPath weight l = some p) :
    p.toList.Sublist l := by
  rw [heaviestPath, Option.or_eq_some_iff] at h
  rcases h with h | ⟨-, h⟩
  · exact Path.sublist_of_mem_all (List.mem_filter.1 (Path.mem_of_heaviest h)).1
  · exact Path.sublist_of_mem_all (List.mem_of_head? h)

theorem heaviestPath_eq_none_iff : heaviestPath weight l = none ↔ l = [] := by
  constructor
  · intro h
    have hhead : (Path.all weight l).head? = none := (Option.or_eq_none_iff.1 h).2
    rw [List.head?_eq_none_iff] at hhead
    rw [← List.length_eq_zero_iff, ← Path.length_all weight l, hhead, List.length_nil]
  · rintro rfl
    rfl

theorem heaviestPath_map {ι : Type} (f : ι → α) (l : List ι) :
    heaviestPath weight (l.map f) =
      (heaviestPath (fun i j ↦ weight (f i) (f j)) l).map (Path.map f) := by
  simp only [heaviestPath, Path.all_map, List.filter_map, List.head?_map, Option.map_or]
  rw [← Path.heaviest_map]
  rfl

end FlowCorrelation
