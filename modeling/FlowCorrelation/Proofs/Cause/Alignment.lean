import FlowCorrelation.Proofs.Cause.Estimate
import FlowCorrelation.Proofs.Cause.Marking

namespace FlowCorrelation

/-- For every bucket, which treatments of the given services are active in it, each looked up in its row.
There is no result where a row is too short. -/
def Estimate.strata? (treatments : List Treatment) (services : List String) (count : Nat) :
    Option (List (List Bool)) :=
  (List.range count).mapM (fun i ↦
    (treatments.filter (fun t ↦ services.contains t.series.service)).mapM (fun t ↦ t.active[i]?))

theorem Estimate.strata?_eq {treatments : List Treatment} {count : Nat} (services : List String)
    (h : ∀ t ∈ treatments, t.active.length = count) :
    strata? treatments services count = some (strataOf treatments services count) := by
  apply mapM_eq_some_map
  intro i hi
  apply mapM_eq_some_map
  intro t ht
  have hlength : i < t.active.length := by
    rw [h t (List.mem_of_mem_filter ht)]
    exact List.mem_range.1 hi
  rw [List.getD_eq_getElem?_getD, List.getElem?_eq_getElem hlength, Option.getD_some]

namespace Buckets

/-- Whether there is a tally for each bucket, of the spans and the log entries that ended in it, and all
tallies together count each span and each log entry once. -/
structure CountsAll (b : Buckets) (s : Signals) (tallies : List Tally) : Prop where
  length_eq : tallies.length = b.count
  getElem?_eq : ∀ i < b.count, tallies[i]? = some
    { total := s.spans.countP (fun x ↦ x.endTime?.any (b.index · = i)) +
        s.logs.countP (fun x ↦ b.index x.timestamp = i)
      errors := s.spans.countP (fun x ↦ x.endTime?.any (b.index · = i) && x.isError) +
        s.logs.countP (fun x ↦ b.index x.timestamp = i && x.isError) }
  sum_total : (tallies.map Tally.total).sum = s.spans.length + s.logs.length

/-- Whether there is a treatment for each series that has a point, and for no other, and it is active in
the buckets of its anomalous points and in those right after them. -/
structure MarksAll (b : Buckets) (s : Signals) (anomaly : AnomalySettings) (treatments : List Treatment) :
    Prop where
  exists_iff : ∀ key, (∃ t ∈ treatments, t.series = key) ↔ ∃ p ∈ s.metrics, p.series = key
  pairwise_series : treatments.Pairwise (fun t u ↦ t.series.Precedes u.series)
  length_active : ∀ t ∈ treatments, t.active.length = b.count
  active_iff : ∀ t ∈ treatments, ∀ i < b.count, t.active[i]? = some true ↔
    ∃ p ∈ s.anomalousPoints anomaly, p.series = t.series ∧
      (b.index p.timestamp = i ∨ b.index p.timestamp + 1 = i)

variable {b : Buckets} {s : Signals} {endings : List Ending} {anomaly : AnomalySettings}

theorem tallyOf_eq (h : s.endings? = some endings) (b : Buckets) (i : Nat) : b.tallyOf endings i =
    { total := s.spans.countP (fun x ↦ x.endTime?.any (b.index · = i)) +
        s.logs.countP (fun x ↦ b.index x.timestamp = i)
      errors := s.spans.countP (fun x ↦ x.endTime?.any (b.index · = i) && x.isError) +
        s.logs.countP (fun x ↦ b.index x.timestamp = i && x.isError) } := by
  have hspan (x : SpanRecord) (p : Ending → Bool) :
      x.ending?.any p = x.endTime?.any (fun t ↦ p ⟨t, x.isError⟩) := by
    rw [SpanRecord.ending?, Option.any_map]
  have herror (x : SpanRecord) : x.endTime?.any (fun t ↦ b.index t = i && x.isError) =
      (x.endTime?.any (b.index · = i) && x.isError) := by
    cases x.endTime? <;> rfl
  simp only [tallyOf, s.countP_endings h, hspan, herror, LogEntry.ending]
  rfl

theorem countsAll_of_endings (h : s.endings? = some endings) :
    b.CountsAll s ((List.range b.count).map (b.tallyOf endings)) where
  length_eq := by rw [List.length_map, List.length_range]
  getElem?_eq i hi := by
    rw [List.getElem?_map, List.getElem?_range hi, Option.map_some, tallyOf_eq h]
  sum_total := by
    rw [← s.length_endings h, ← b.sum_total_tallyOf endings, List.map_map]
    rfl

theorem marksAll_treatments (b : Buckets) (s : Signals) (anomaly : AnomalySettings) :
    b.MarksAll s anomaly (b.treatments s anomaly) where
  exists_iff key := by
    constructor
    · rintro ⟨t, ht, rfl⟩
      exact (mem_treatments.1 ht).1
    · intro hkey
      refine ⟨⟨key, b.rowOf _ key⟩, mem_treatments.2 ⟨hkey, rfl⟩, rfl⟩
  pairwise_series := b.pairwise_treatments s anomaly
  length_active _ := length_active
  active_iff t ht i hi := by
    rw [(mem_treatments.1 ht).2, rowOf, List.getElem?_map, List.getElem?_range hi, Option.map_some,
      Option.some.injEq, isActive, List.any_eq_true]
    simp only [List.mem_filter, decide_eq_true_eq, Bool.or_eq_true, and_assoc]
    exact Iff.rfl

theorem exists_outcome_iff {K : Type} [Div K] [NatCast K] (h : s.endings? = some endings) {i : Nat} :
    (∃ y : K, (b.outcomes endings)[i]? = some (some y)) ↔
      (∃ x ∈ s.spans, ∃ t, x.endTime? = some t ∧ b.index t = i) ∨
        ∃ x ∈ s.logs, b.index x.timestamp = i := by
  have hended : (∃ e ∈ endings, b.index e.time = i) ↔
      (∃ x ∈ s.spans, ∃ t, x.endTime? = some t ∧ b.index t = i) ∨
        ∃ x ∈ s.logs, b.index x.timestamp = i := by
    rw [Signals.exists_ending_iff h]
    simp [SpanRecord.ending?, LogEntry.ending]
  have hshare : (∃ y : K, b.outcome endings i = some y) ↔ ∃ e ∈ endings, b.index e.time = i := by
    rw [outcome_eq_share?, Tally.exists_share?_iff, tallyOf, List.countP_pos_iff]
    simp only [decide_eq_true_eq]
  rw [← hended, ← hshare, outcomes, List.getElem?_map]
  by_cases hi : i < b.count
  · simp [hi]
  · have hnone : ¬ ∃ e ∈ endings, b.index e.time = i := by
      rintro ⟨e, -, rfl⟩
      exact hi (b.index_lt e.time)
    simp [hi, hshare, hnone]

/-- Whatever is looked up by the index of a bucket is there: a tally, a mark, an element of a row or a
stratum. Only for a span that ends outside the calendar nothing can be counted, and no context has one.
Else every span and every log entry is counted in one bucket, and a bucket has an outcome exactly if one of
them ended in it. A treatment is active in the buckets of the anomalous points of its series and in those
right after them. -/
theorem filling_is_exact_and_in_bounds {K : Type} [Div K] [NatCast K] (b : Buckets) (s : Signals)
    (g : ServiceGraph) (anomaly : AnomalySettings) :
    let treatments := b.treatments s anomaly
    (∀ t, b.index t < b.count) ∧
      (∃ marks, b.marks? (s.metrics.zip (anomaly.detect s.metrics)) = some marks ∧
        treatments = Treatment.ofMarks marks) ∧
      b.MarksAll s anomaly treatments ∧
      (s.endings? = none ↔ ∃ x ∈ s.spans, x.endTime? = none) ∧
      (s.endings? = none → ∀ id settings now, FlowContext.assemble? id s settings now = none) ∧
      ∀ endings, s.endings? = some endings →
        let outcomes : List (Option K) := b.outcomes endings
        (∃ tallies, b.tallies? endings = some tallies ∧ b.CountsAll s tallies ∧
          outcomes = tallies.map Tally.share?) ∧
        (∀ i, (∃ y, outcomes[i]? = some (some y)) ↔
          (∃ x ∈ s.spans, ∃ t, x.endTime? = some t ∧ b.index t = i) ∨
            ∃ x ∈ s.logs, b.index x.timestamp = i) ∧
        ∀ t ∈ treatments, ∃ strata l,
          Estimate.strata? treatments (g.callers t.series.service) b.count = some strata ∧
            strata = Estimate.strataOf treatments (g.callers t.series.service) outcomes.length ∧
            strata.length = b.count ∧ observations? outcomes t.active strata = some l := by
  intro treatments
  obtain ⟨marks, hmarks, hmarked⟩ := b.exists_marks (s.metrics.zip (anomaly.detect s.metrics))
  refine ⟨b.index_lt, ⟨marks, hmarks, treatments_eq_ofMarks hmarked⟩, b.marksAll_treatments s anomaly,
    Signals.endings?_eq_none_iff, fun hnone id settings now ↦ ?_, fun endings hendings ↦ ?_⟩
  · exact FlowContext.assemble?_eq_none_iff.2 (Signals.endings?_eq_none_iff.1 hnone)
  intro outcomes
  have houtcomes : outcomes.length = b.count := b.length_outcomes endings
  refine ⟨⟨_, b.tallies?_eq endings, countsAll_of_endings hendings, b.outcomes_eq_map_share? endings⟩,
    fun i ↦ exists_outcome_iff hendings, fun t ht ↦ ?_⟩
  have hstrata := Estimate.length_strataOf treatments (g.callers t.series.service) b.count
  have hobserved := observations?_eq_some ((length_active ht).trans houtcomes.symm)
    (hstrata.trans houtcomes.symm)
  refine ⟨_, _, Estimate.strata?_eq _ (fun u hu ↦ length_active hu), ?_, hstrata, hobserved⟩
  rw [houtcomes]

/-- A span that ended before the first of four buckets and an error after the last are counted in these, and
the anomalous point at the end of the period marks no bucket but the last. -/
theorem filling_beyond_the_period :
    let span : SpanRecord := { timestamp := ⟨-2, 0⟩, service := "orders", name := "reserve" }
    let entry : LogEntry :=
      { timestamp := ⟨9, 0⟩, service := "orders", severity := .error, body := "timeout" }
    let first : MetricPoint :=
      { timestamp := ⟨0, 0⟩, service := "orders", name := "queue", value := 1, anomalyScore := some 9 }
    let last : MetricPoint := { first with timestamp := ⟨4, 0⟩ }
    let s : Signals := ⟨[span], [entry], [first, last]⟩
    let b := Buckets.ofPeriod (.between ⟨0, 0⟩ ⟨4, 0⟩) 4
    ∃ endings, s.endings? = some endings ∧
      (∃ tallies, b.tallies? endings = some tallies ∧ b.CountsAll s tallies) ∧
      (∃ y : ℚ, (b.outcomes endings)[0]? = some (some y)) ∧
      (∃ y : ℚ, (b.outcomes endings)[3]? = some (some y)) ∧
      ∃ t ∈ b.treatments s {}, t.active.length = 4 ∧ t.active[1]? = some true ∧
        t.active[2]? ≠ some true ∧ t.active[3]? = some true ∧
        ∃ strata l, strata.length = 4 ∧
          observations? (b.outcomes endings : List (Option ℚ)) t.active strata = some l := by
  intro span entry first last s b
  obtain ⟨-, -, hmarks, -, -, hcounts⟩ := filling_is_exact_and_in_bounds (K := ℚ) b s {} {}
  have hfirst : b.index ⟨0, 0⟩ = 0 := by decide +kernel
  have hlast : b.index ⟨4, 0⟩ = 3 := by decide +kernel
  have hspan : span.endTime? = some ⟨-2, 0⟩ := by decide +kernel
  have hflags : ({} : AnomalySettings).detect s.metrics = [true, true] := by decide +kernel
  have hpoints : s.anomalousPoints {} = [first, last] := by
    rw [Signals.anomalousPoints, hflags]
    rfl
  obtain ⟨endings, hendings⟩ : ∃ endings, s.endings? = some endings :=
    Option.isSome_iff_exists.1 (by decide +kernel)
  obtain ⟨⟨tallies, htallies, hall, -⟩, houtcome, hstrata⟩ := hcounts endings hendings
  obtain ⟨t, ht, hseries⟩ := (hmarks.exists_iff first.series).2 ⟨first, List.mem_cons_self, rfl⟩
  obtain ⟨strata, l, -, -, hlength, hl⟩ := hstrata t ht
  have hactive := hmarks.active_iff t ht
  rw [hpoints, hseries] at hactive
  refine ⟨endings, hendings, ⟨tallies, htallies, hall⟩, (houtcome 0).2 ?_, (houtcome 3).2 ?_, t, ht,
    hmarks.length_active t ht, (hactive 1 (by decide)).2 ?_, ?_, (hactive 3 (by decide)).2 ?_, strata, l,
    hlength, hl⟩
  · exact Or.inl ⟨span, List.mem_singleton_self _, _, hspan, by decide +kernel⟩
  · exact Or.inr ⟨entry, List.mem_singleton_self _, by decide +kernel⟩
  · exact ⟨first, List.mem_cons_self, rfl, Or.inr (by rw [hfirst])⟩
  · rw [ne_eq, hactive 2 (by decide)]
    rintro ⟨p, hp, -, hindex⟩
    rcases List.mem_cons.1 hp with rfl | hp
    · rw [hfirst] at hindex
      omega
    · rw [List.mem_singleton.1 hp, hlast] at hindex
      omega
  · exact ⟨last, by simp, rfl, Or.inl hlast⟩

end Buckets

end FlowCorrelation
