import FlowCorrelation.Anomaly
import Mathlib.Data.List.Induction
import Mathlib.Data.List.InsertIdx

namespace FlowCorrelation

section

variable {α : Type} {q : α → Bool}

/-- The flags of those elements that satisfy `q`, each flag standing in the place of its element. -/
def flagsWhere (q : α → Bool) (l : List α) (flags : List Bool) : List Bool :=
  ((l.zip flags).filter (fun e ↦ q e.1)).map Prod.snd

theorem flagsWhere_map (q : α → Bool) (f : α → Bool) (l : List α) :
    flagsWhere q l (l.map f) = (l.filter q).map f := by
  induction l with
  | nil => rfl
  | cons a l ih =>
    simp only [flagsWhere] at ih
    cases hq : q a <;> simp [flagsWhere, hq, ih]

theorem filter_eraseIdx {l : List α} {i : Nat} {a : α} (ha : l[i]? = some a) (hq : q a = false) :
    (l.eraseIdx i).filter q = l.filter q := by
  induction l generalizing i with
  | nil => cases ha
  | cons b l ih =>
    cases i with
    | zero =>
      obtain rfl := Option.some.inj ha
      rw [List.eraseIdx_cons_zero, List.filter_cons_of_neg (by simp [hq])]
    | succ i => simp only [List.eraseIdx_cons_succ, List.filter_cons, ih ha]

end

def valuesOf (key : SeriesKey) (points : List MetricPoint) : List Float :=
  (points.filter (fun p ↦ p.series = key && p.baseline.isNone)).map (·.value)

/-- Whether a point is anomalous among others: by itself, or by the values of its series if it has no
baseline. -/
def AnomalySettings.flagsAmong (s : AnomalySettings) (points : List MetricPoint) (p : MetricPoint) :
    Bool :=
  s.flagsPoint p || (p.baseline.isNone &&
    (s.distribution? (valuesOf p.series points)).any (fun d ↦ s.flagsValue d p.value))

variable {s : AnomalySettings} {points : List MetricPoint} {p : MetricPoint} {key : SeriesKey}

def listedUnder (key : SeriesKey) (l : List (SeriesKey × List Float)) : Option (List Float) :=
  (l.find? (fun e ↦ e.1 = key)).map Prod.snd

theorem listedUnder_addToSeries (k : SeriesKey) (x : Float) (l : List (SeriesKey × List Float)) :
    listedUnder key (addToSeries k x l) =
      if k = key then some ((listedUnder key l).getD [] ++ [x]) else listedUnder key l := by
  induction l with
  | nil => by_cases hk : k = key <;> simp [listedUnder, addToSeries, hk]
  | cons e l ih =>
    obtain ⟨k', xs⟩ := e
    simp only [listedUnder] at ih
    by_cases hlisted : k' = k
    · subst hlisted
      by_cases hk : k' = key <;> simp [listedUnder, addToSeries, hk]
    · by_cases hk : k' = key
      · subst hk
        simp [listedUnder, addToSeries, hlisted, Ne.symm hlisted]
      · simp [listedUnder, addToSeries, hlisted, hk, ih]

theorem valuesOf_concat (key : SeriesKey) (points : List MetricPoint) (p : MetricPoint) :
    valuesOf key (points ++ [p]) =
      if p.series = key ∧ p.baseline = none then valuesOf key points ++ [p.value]
      else valuesOf key points := by
  simp only [valuesOf, List.filter_append, List.map_append, List.filter_cons, List.filter_nil,
    Bool.and_eq_true, decide_eq_true_eq, Option.isNone_iff_eq_none]
  split <;> simp

theorem listedUnder_seriesValues (key : SeriesKey) (points : List MetricPoint) :
    listedUnder key (seriesValues points) =
      if valuesOf key points = [] then none else some (valuesOf key points) := by
  -- The values are gathered from the front, so the induction takes off the last point.
  induction points using List.reverseRecOn with
  | nil => rfl
  | append_singleton points p ih =>
    have hstep : seriesValues (points ++ [p]) =
        if p.baseline.isNone then addToSeries p.series p.value (seriesValues points)
        else seriesValues points := by
      rw [seriesValues, List.foldl_append]
      rfl
    rw [hstep, valuesOf_concat]
    cases hp : p.baseline with
    | none =>
      by_cases hkey : p.series = key
      · by_cases hvalues : valuesOf key points = [] <;>
          simp [listedUnder_addToSeries, hkey, ih, hvalues]
      · simp [listedUnder_addToSeries, hkey, ih]
    | some b => simp [ih]

namespace AnomalySettings

theorem judged_eq (s : AnomalySettings) (hvalues : valuesOf key points ≠ []) :
    (((seriesValues points).map (fun (k, xs) ↦ (k, s.distribution? xs))).find?
      (fun e ↦ e.1 = key)).bind Prod.snd = s.distribution? (valuesOf key points) := by
  have hlisted := listedUnder_seriesValues key points
  rw [if_neg hvalues] at hlisted
  obtain ⟨e, he, hxs⟩ := Option.map_eq_some_iff.1 hlisted
  have hfound : (seriesValues points).find?
      ((fun e : SeriesKey × Option Distribution ↦ decide (e.1 = key)) ∘
        (fun (k, xs) ↦ (k, s.distribution? xs))) = some e := he
  rw [List.find?_map, hfound, Option.map_some, Option.bind_some, ← hxs]

theorem detect_eq (s : AnomalySettings) (points : List MetricPoint) :
    s.detect points = points.map (s.flagsAmong points) := by
  refine List.map_congr_left (fun p hp ↦ ?_)
  cases hbaseline : p.baseline with
  | some b => simp only [flagsAmong, hbaseline, Option.isNone_some, Bool.false_and]
  | none =>
    have hvalues : valuesOf p.series points ≠ [] := by
      refine List.ne_nil_of_mem (List.mem_map_of_mem (List.mem_filter.2 ⟨hp, ?_⟩))
      simp [hbaseline]
    rw [flagsAmong, ← s.judged_eq hvalues, hbaseline]

theorem flagsAmong_congr {others : List MetricPoint}
    (h : valuesOf p.series others = valuesOf p.series points) :
    s.flagsAmong others p = s.flagsAmong points p := by
  rw [flagsAmong, flagsAmong, h]

theorem valuesOf_filter_series (key : SeriesKey) (points : List MetricPoint) :
    valuesOf key (points.filter (·.series = key)) = valuesOf key points := by
  rw [valuesOf, List.filter_filter, valuesOf]
  congr 2
  funext p
  cases decide (p.series = key) <;> simp

theorem flagsWhere_detect (s : AnomalySettings) (key : SeriesKey) (points : List MetricPoint) :
    flagsWhere (·.series = key) points (s.detect points) =
      s.detect (points.filter (·.series = key)) := by
  rw [detect_eq, detect_eq, flagsWhere_map]
  refine List.map_congr_left (fun p hp ↦ flagsAmong_congr ?_)
  have hkey : p.series = key := of_decide_eq_true (List.mem_filter.1 hp).2
  rw [hkey, valuesOf_filter_series]

theorem detect_eraseIdx (s : AnomalySettings) {i : Nat} (hp : points[i]? = some p)
    (hbaseline : p.baseline.isSome) :
    s.detect (points.eraseIdx i) = (s.detect points).eraseIdx i := by
  have hvalues (key : SeriesKey) : valuesOf key (points.eraseIdx i) = valuesOf key points := by
    rw [valuesOf, filter_eraseIdx hp, valuesOf]
    simp [hbaseline]
  rw [detect_eq, detect_eq, List.eraseIdx_map]
  exact List.map_congr_left (fun p _ ↦ flagsAmong_congr (hvalues p.series))

/-- Each point has its flag in its place, which tells of the point and of its series only. The flags of
a series are those that its points get alone, so they are the same in every list in which these points
stand in this order, whatever stands between them. A point that is anomalous by itself is always
flagged; one with a baseline is flagged for nothing else, and leaving it out leaves the other flags. -/
theorem detect_judges_series_apart (s : AnomalySettings) (points : List MetricPoint) :
    s.detect points = points.map (s.flagsAmong points) ∧
    (∀ key, flagsWhere (·.series = key) points (s.detect points) =
      s.detect (points.filter (·.series = key))) ∧
    (∀ key others, others.filter (·.series = key) = points.filter (·.series = key) →
      flagsWhere (·.series = key) others (s.detect others) =
        flagsWhere (·.series = key) points (s.detect points)) ∧
    ∀ i p, points[i]? = some p →
      (s.flagsPoint p → (s.detect points)[i]? = some true) ∧
      (p.baseline.isSome → (s.detect points)[i]? = some (s.flagsPoint p) ∧
        s.detect (points.eraseIdx i) = (s.detect points).eraseIdx i) := by
  refine ⟨s.detect_eq points, fun key ↦ s.flagsWhere_detect key points, ?_, fun i p hp ↦ ?_⟩
  · intro key others hsame
    rw [flagsWhere_detect, flagsWhere_detect, hsame]
  · have hflag : (s.detect points)[i]? = some (s.flagsAmong points p) := by
      rw [detect_eq, List.getElem?_map, hp, Option.map_some]
    refine ⟨fun hpoint ↦ ?_, fun hbaseline ↦ ⟨?_, s.detect_eraseIdx hp hbaseline⟩⟩
    · rw [hflag, flagsAmong, hpoint, Bool.true_or]
    · rw [hflag, flagsAmong, Option.isNone_eq_false_iff.2 hbaseline, Bool.false_and, Bool.or_false]

/-- One long wait among ten short ones is flagged, whether the points of another series stand before it
or after it. A point with a baseline is flagged in its place and left out without a trace. -/
theorem detect_judges_interleaved_series :
    let wait (value : Float) : MetricPoint :=
      { timestamp := ⟨0, 0⟩, service := "db", name := "wait", value := value }
    let load (value baseline : Float) : MetricPoint :=
      { timestamp := ⟨0, 0⟩, service := "web", name := "load", value := value
        baseline := some baseline }
    let s : AnomalySettings := {}
    let waits := List.replicate 10 (wait 1) ++ [wait 9]
    let apart := load 500 5 :: waits
    let together := waits ++ [load 6 5]
    flagsWhere (·.series = ⟨"db", "wait"⟩) apart (s.detect apart) = List.replicate 10 false ++ [true] ∧
      flagsWhere (·.series = ⟨"db", "wait"⟩) together (s.detect together) =
        flagsWhere (·.series = ⟨"db", "wait"⟩) apart (s.detect apart) ∧
      (s.detect apart)[0]? = some true ∧
      s.detect waits = (s.detect apart).eraseIdx 0 := by
  intro wait load s waits apart together
  obtain ⟨-, halone, hseries, hpoints⟩ := detect_judges_series_apart s apart
  obtain ⟨hflagged, hbaseline⟩ := hpoints 0 (load 500 5) rfl
  have hwaits : apart.filter (·.series = ⟨"db", "wait"⟩) = waits := by
    simp [apart, waits, wait, load, MetricPoint.series]
  have hsame : together.filter (·.series = ⟨"db", "wait"⟩) =
      apart.filter (·.series = ⟨"db", "wait"⟩) := by
    simp [together, apart, waits, wait, load, MetricPoint.series]
  have hlong : s.detect waits = List.replicate 10 false ++ [true] := by decide +kernel
  refine ⟨?_, hseries ⟨"db", "wait"⟩ together hsame, hflagged ?_, (hbaseline rfl).2⟩
  · rw [halone, hwaits, hlong]
  · decide +kernel

end AnomalySettings

end FlowCorrelation
