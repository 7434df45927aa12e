import FlowCorrelation.Proofs.Cause.Counting
import FlowCorrelation.Proofs.Cause.Ranking

namespace FlowCorrelation

/-- Marks an element and, if there is one, the next. There is no result where a list does not have the
first. -/
def mark? (i : Nat) (active : List Bool) : Option (List Bool) := do
  let active ← modifyAt? (fun _ ↦ true) i active
  if i + 1 < active.length then modifyAt? (fun _ ↦ true) (i + 1) active else some active

theorem mark?_map_range (g : Nat → Bool) {n i : Nat} (hi : i < n) :
    mark? i ((List.range n).map g) =
      some ((List.range n).map (fun j ↦ g j || (i = j || i + 1 = j))) := by
  rw [mark?, modifyAt?_map_range _ _ hi]
  simp only [Option.bind_eq_bind, Option.bind_some, List.length_map, List.length_range]
  split
  · rename_i hnext
    rw [modifyAt?_map_range _ _ hnext, Option.some.injEq]
    apply List.map_congr_left
    intro j _
    by_cases hj : i = j <;> by_cases hj' : i + 1 = j <;> simp [hj, hj']
  · rename_i hlast
    rw [Option.some.injEq]
    apply List.map_congr_left
    intro j hj
    have hj' : ¬ i + 1 = j := by
      have := List.mem_range.1 hj
      omega
    by_cases hj : i = j <;> simp [hj, hj']

def anomalousAmong (points : List (MetricPoint × Bool)) : List MetricPoint :=
  points.filterMap (fun (p, anomalous) ↦ if anomalous then some p else none)

namespace Buckets

variable {b : Buckets} {points : List (MetricPoint × Bool)} {marks : Dict (Dict (List Bool))}
  {key : SeriesKey}

def markPoint? (b : Buckets) (marks : Dict (Dict (List Bool))) (x : MetricPoint × Bool) :
    Option (Dict (Dict (List Bool))) :=
  let active := (marks.cell? x.1.service x.1.name).getD (List.replicate b.count false)
  (if x.2 then mark? (b.index x.1.timestamp) active else some active).map (fun active ↦
    marks.update x.1.service (fun row ↦ (row.getD ∅).update x.1.name (fun _ ↦ active)))

/-- Marks one point after the other. There is no result where a point has the index of no bucket. -/
def marks? (b : Buckets) (points : List (MetricPoint × Bool)) : Option (Dict (Dict (List Bool))) :=
  points.foldlM b.markPoint? ∅

def rowOf (b : Buckets) (points : List (MetricPoint × Bool)) (key : SeriesKey) : List Bool :=
  (List.range b.count).map (b.isActive ((anomalousAmong points).filter (·.series = key)))

def Marked (b : Buckets) (points : List (MetricPoint × Bool)) (marks : Dict (Dict (List Bool))) : Prop :=
  ∀ key : SeriesKey, marks.cell? key.service key.metric =
    if ∃ x ∈ points, x.1.series = key then some (b.rowOf points key) else none

theorem rowOf_of_absent (h : ¬ ∃ x ∈ points, x.1.series = key) :
    b.rowOf points key = List.replicate b.count false := by
  have hnone : (anomalousAmong points).filter (·.series = key) = [] := by
    refine List.filter_eq_nil_iff.2 (fun p hp hkey ↦ h ?_)
    obtain ⟨x, hx, hflagged⟩ := List.mem_filterMap.1 hp
    obtain ⟨-, hp⟩ := Option.ite_none_right_eq_some.1 hflagged
    obtain rfl := Option.some.inj hp
    exact ⟨x, hx, of_decide_eq_true hkey⟩
  have hclear : b.isActive [] = fun _ ↦ false := rfl
  rw [rowOf, hnone, hclear, List.map_const', List.length_range]

theorem rowOf_concat_of_ne {x : MetricPoint × Bool} (h : x.1.series ≠ key) :
    b.rowOf (points ++ [x]) key = b.rowOf points key := by
  obtain ⟨p, anomalous⟩ := x
  cases anomalous <;> simp [rowOf, anomalousAmong, List.filterMap_append, h]

theorem row_concat (b : Buckets) (points : List (MetricPoint × Bool)) (x : MetricPoint × Bool) :
    (if x.2 then mark? (b.index x.1.timestamp) (b.rowOf points x.1.series)
      else some (b.rowOf points x.1.series)) = some (b.rowOf (points ++ [x]) x.1.series) := by
  obtain ⟨p, anomalous⟩ := x
  cases anomalous with
  | false => simp [rowOf, anomalousAmong, List.filterMap_append]
  | true =>
    rw [if_pos rfl, rowOf, mark?_map_range _ (b.index_lt p.timestamp), rowOf, Option.some.injEq]
    apply List.map_congr_left
    intro j _
    simp [isActive, anomalousAmong, List.filterMap_append, List.any_append]

theorem Marked.markPoint? (h : b.Marked points marks) (x : MetricPoint × Bool) :
    ∃ marks', b.markPoint? marks x = some marks' ∧ b.Marked (points ++ [x]) marks' := by
  have hrow : (marks.cell? x.1.service x.1.name).getD (List.replicate b.count false) =
      b.rowOf points x.1.series := by
    have hcell : marks.cell? x.1.service x.1.name = _ := h x.1.series
    rw [hcell]
    split
    · rfl
    · rename_i habsent
      exact (rowOf_of_absent habsent).symm
  refine ⟨_, by rw [Buckets.markPoint?, hrow, b.row_concat points x, Option.map_some], ?_⟩
  intro key
  rw [Dict.cell?_update]
  by_cases hkey : x.1.series = key
  · subst hkey
    rw [if_pos ⟨rfl, rfl⟩, if_pos ⟨x, by simp, rfl⟩]
  · have hother : ¬ (x.1.service = key.service ∧ x.1.name = key.metric) := by
      rintro ⟨hservice, hmetric⟩
      apply hkey
      rw [MetricPoint.series, hservice, hmetric]
    have hmem : (∃ y ∈ points ++ [x], y.1.series = key) ↔ ∃ y ∈ points, y.1.series = key := by
      simp [hkey]
    rw [if_neg hother, h key, rowOf_concat_of_ne hkey]
    simp only [hmem]

/-- The pass always comes to an end, with the marks of all points. -/
theorem exists_marks (b : Buckets) (points : List (MetricPoint × Bool)) :
    ∃ marks, b.marks? points = some marks ∧ b.Marked points marks := by
  induction points using List.reverseRecOn with
  | nil => exact ⟨∅, rfl, fun key ↦ by simp⟩
  | append_singleton points x ih =>
    obtain ⟨marks, hmarks, h⟩ := ih
    obtain ⟨marks', hmarks', h'⟩ := h.markPoint? x
    refine ⟨marks', ?_, h'⟩
    rw [marks?] at hmarks ⊢
    rw [List.foldlM_append, hmarks]
    simpa using hmarks'

end Buckets

/-- The rows of a table of marks, in order of service and metric. -/
def Treatment.ofMarks (marks : Dict (Dict (List Bool))) : List Treatment :=
  marks.entries.flatMap (fun e ↦ e.2.entries.map (fun cell ↦ ⟨⟨e.1, cell.1⟩, cell.2⟩))

theorem Treatment.mem_ofMarks {marks : Dict (Dict (List Bool))} {t : Treatment} :
    t ∈ ofMarks marks ↔ marks.cell? t.series.service t.series.metric = some t.active := by
  rw [ofMarks, Dict.mem_cells_iff (f := fun service cell ↦ (⟨⟨service, cell.1⟩, cell.2⟩ : Treatment))]
  constructor
  · rintro ⟨service, metric, active, hcell, rfl⟩
    exact hcell
  · intro hcell
    exact ⟨_, _, _, hcell, rfl⟩

theorem Treatment.pairwise_ofMarks (marks : Dict (Dict (List Bool))) :
    (ofMarks marks).Pairwise (fun t u ↦
      toLex (t.series.service, t.series.metric) < toLex (u.series.service, u.series.metric)) :=
  Dict.pairwise_cells (fun service cell ↦ (⟨⟨service, cell.1⟩, cell.2⟩ : Treatment))
    (fun t ↦ (t.series.service, t.series.metric)) (fun _ _ ↦ rfl)

namespace Signals

variable {s : Signals} {anomaly : AnomalySettings} {key : SeriesKey}

theorem isSome_cell?_foldl {l : List MetricPoint} {d : Dict NameSet} :
    ((l.foldl (fun (d : Dict NameSet) p ↦
      d.update p.service (fun row ↦ (row.getD ∅).insert p.name ())) d).cell? key.service key.metric).isSome ↔
        (d.cell? key.service key.metric).isSome ∨ ∃ p ∈ l, p.series = key := by
  induction l generalizing d with
  | nil => simp
  | cons p l ih =>
    have hcell : (d.update p.service (fun row ↦ (row.getD ∅).insert p.name ())).cell? key.service
        key.metric = _ := Dict.cell?_update (fun _ ↦ ())
    have hkey : p.series = key ↔ p.service = key.service ∧ p.name = key.metric := by
      cases key
      simp [MetricPoint.series]
    rw [List.foldl_cons, ih, hcell, List.exists_mem_cons_iff, hkey, ← or_assoc]
    refine or_congr_left ?_
    split <;> simp [*]

theorem mem_seriesKeys : key ∈ s.seriesKeys ↔ ∃ p ∈ s.metrics, p.series = key := by
  have hcells : key ∈ s.seriesKeys ↔ ((s.metrics.foldl (fun (d : Dict NameSet) p ↦
      d.update p.service (fun row ↦ (row.getD ∅).insert p.name ())) ∅).cell? key.service
        key.metric).isSome := by
    rw [seriesKeys]
    simp only [Dict.keys, List.map_map]
    refine (Dict.mem_cells_iff (f := fun row cell ↦ SeriesKey.mk row cell.1)).trans ?_
    rw [Option.isSome_iff_exists]
    constructor
    · rintro ⟨service, metric, v, hv, rfl⟩
      exact ⟨v, hv⟩
    · rintro ⟨v, hv⟩
      exact ⟨_, _, v, hv, rfl⟩
  rw [hcells, isSome_cell?_foldl]
  simp

end Signals

namespace Buckets

theorem mem_treatments {b : Buckets} {s : Signals} {anomaly : AnomalySettings} {t : Treatment} :
    t ∈ b.treatments s anomaly ↔ (∃ p ∈ s.metrics, p.series = t.series) ∧
      t.active = b.rowOf (s.metrics.zip (anomaly.detect s.metrics)) t.series := by
  rw [treatments, List.mem_map]
  constructor
  · rintro ⟨key, hkey, rfl⟩
    exact ⟨Signals.mem_seriesKeys.1 hkey, rfl⟩
  · rintro ⟨hseries, hactive⟩
    obtain ⟨series, active⟩ := t
    exact ⟨series, Signals.mem_seriesKeys.2 hseries, congrArg _ hactive.symm⟩

theorem treatments_eq_ofMarks {b : Buckets} {s : Signals} {anomaly : AnomalySettings}
    {marks : Dict (Dict (List Bool))}
    (h : b.Marked (s.metrics.zip (anomaly.detect s.metrics)) marks) :
    b.treatments s anomaly = Treatment.ofMarks marks := by
  have hpoints := List.map_fst_zip (anomaly.length_detect s.metrics).ge
  have htreatments : (b.treatments s anomaly).Pairwise (fun t u ↦
      toLex (t.series.service, t.series.metric) < toLex (u.series.service, u.series.metric)) :=
    (b.pairwise_treatments s anomaly).imp (fun h ↦ Prod.Lex.toLex_lt_toLex.2 h)
  refine eq_of_pairwise_lt htreatments (Treatment.pairwise_ofMarks marks) (fun t ↦ ?_)
  have hseries : (∃ x ∈ s.metrics.zip (anomaly.detect s.metrics), x.1.series = t.series) ↔
      ∃ p ∈ s.metrics, p.series = t.series := by
    conv_rhs => rw [← hpoints]
    simp only [List.mem_map, exists_exists_and_eq_and]
  rw [Treatment.mem_ofMarks, h, mem_treatments, Option.ite_none_right_eq_some, hseries,
    Option.some.injEq, eq_comm]

end Buckets

end FlowCorrelation
