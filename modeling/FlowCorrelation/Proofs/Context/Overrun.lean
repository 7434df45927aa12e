import FlowCorrelation.Proofs.Calendar.Extent
import FlowCorrelation.Proofs.Cause.Incident

namespace FlowCorrelation

theorem holds_clampedRound (x : Float) : Word.holds (clampedRound x) := by
  have hclamp (n : Int) : Word.holds (Word.clamp n) :=
    Bool.and_eq_true_iff.2 ⟨decide_eq_true (Int.le_max_left _ _),
      decide_eq_true (Int.max_le.2 ⟨by decide, Int.min_le_left _ _⟩)⟩
  unfold clampedRound
  split
  · decide
  · split <;> decide
  · exact hclamp _

namespace SpanRecord

/-- Whether the nanoseconds of the duration lead from the start out of the calendar. -/
def Overruns (x : SpanRecord) : Prop :=
  ¬ Instant.CountInCalendar
    (x.timestamp.countToward (x.durationMicros * 1000) + x.durationMicros * 1000)

instance (x : SpanRecord) : Decidable x.Overruns := by
  unfold Overruns
  infer_instance

variable {x : SpanRecord}

theorem endTime?_eq_none_iff (h : x.timestamp.InUnsignedYears) :
    x.endTime? = none ↔ x.Overruns :=
  Instant.add?_eq_none_iff h _

theorem not_overruns_of_short (h : x.timestamp.InUnsignedYears)
    (hback : -8272434009600 * 1000000 ≤ x.durationMicros)
    (hahead : x.durationMicros ≤ 7956864576000 * 1000000) : ¬ x.Overruns :=
  fun hover ↦ Instant.add?_ne_none_of_short h (by omega) (by omega)
    ((endTime?_eq_none_iff h).2 hover)

theorem overruns_of_long (h : x.timestamp.InUnsignedYears)
    (hlong : x.durationMicros ≤ -8588003529601 * 1000000 ∨
      8272434096000 * 1000000 ≤ x.durationMicros) : x.Overruns :=
  (endTime?_eq_none_iff h).1 (Instant.add?_eq_none_of_long h (by omega))

end SpanRecord

namespace Signals

theorem exists_endless_iff {spans : List SpanRecord}
    (h : ∀ x ∈ spans, x.timestamp.InUnsignedYears) :
    (∃ x ∈ spans, x.endTime? = none) ↔ ∃ x ∈ spans, x.Overruns :=
  exists_congr (fun x ↦ and_congr_right (fun hx ↦ SpanRecord.endTime?_eq_none_iff (h x hx)))

/-- The records of a flow have a context, events and outcomes unless one of the spans overruns. None
does whose duration is within 252,000 years, and all do whose duration is beyond 273,000 years. -/
theorem incomplete_iff_overruns (id : String) (s : Signals) (anomaly : AnomalySettings)
    (now : Instant) (h : ∀ x ∈ s.spans, x.timestamp.InUnsignedYears) :
    (∀ x ∈ s.spans, Word.holds x.durationMicros ∧ (x.endTime? = none ↔ x.Overruns) ∧
      (-8272434009600 * 1000000 ≤ x.durationMicros ∧
        x.durationMicros ≤ 7956864576000 * 1000000 → ¬ x.Overruns) ∧
      (x.durationMicros ≤ -8588003529601 * 1000000 ∨
        8272434096000 * 1000000 ≤ x.durationMicros → x.Overruns)) ∧
    (FlowContext.assemble? id s anomaly now = none ↔ ∃ x ∈ s.spans, x.Overruns) ∧
    (s.causeEvents? anomaly = none ↔ ∃ x ∈ s.spans, x.Overruns) ∧
    (s.endings? = none ↔ ∃ x ∈ s.spans, x.Overruns) := by
  refine ⟨fun x hx ↦ ⟨holds_clampedRound _, SpanRecord.endTime?_eq_none_iff (h x hx),
    fun hshort ↦ SpanRecord.not_overruns_of_short (h x hx) hshort.1 hshort.2,
    SpanRecord.overruns_of_long (h x hx)⟩, ?_, ?_, ?_⟩
  · rw [FlowContext.assemble?_eq_none_iff, exists_endless_iff h]
  · rw [causeEvents?_eq_none_iff, exists_endless_iff h]
  · rw [endings?_eq_none_iff, exists_endless_iff h]

/-- Two spans that start in a leap second; only the second outlasts the calendar. -/
theorem incomplete_of_leap_second :
    let start : Instant := ⟨1483228799, 1500000000⟩
    let brief : SpanRecord :=
      { timestamp := start, service := "s", name := "n", durationMs := 8000000000000000 }
    let endless : SpanRecord :=
      { timestamp := start, service := "s", name := "n", durationMs := 8300000000000000 }
    start.InUnsignedYears ∧
      (FlowContext.assemble? "flow-1" ⟨[brief], [], []⟩ {} start ≠ none) ∧
      (FlowContext.assemble? "flow-1" ⟨[brief, endless], [], []⟩ {} start = none) := by
  intro start brief endless
  have hstart : start.InUnsignedYears := by decide
  have hfor (spans : List SpanRecord) (h : ∀ x ∈ spans, x.timestamp = start) :=
    incomplete_iff_overruns "flow-1" ⟨spans, [], []⟩ {} start (fun x hx ↦ h x hx ▸ hstart)
  refine ⟨hstart, fun hnone ↦ ?_, ?_⟩
  · obtain ⟨x, hx, hover⟩ := (hfor [brief] (by simp [brief])).2.1.1 hnone
    rw [List.mem_singleton.1 hx] at hover
    exact absurd hover (by decide +kernel)
  · exact (hfor [brief, endless] (by simp [brief, endless])).2.1.2
      ⟨endless, by simp, by decide +kernel⟩

/-- A span of a finite duration can leave a flow without everything that is made of its records. -/
theorem incomplete_of_endless_span :
    let x : SpanRecord :=
      { timestamp := ⟨1767225600, 0⟩, service := "s", name := "n", durationMs := 10000000000000000 }
    let s : Signals := { spans := [x] }
    x.durationMs.isFinite ∧ x.timestamp.InUnsignedYears ∧ x.endTime? = none ∧
      (∀ id anomaly now, FlowContext.assemble? id s anomaly now = none) ∧
      (∀ anomaly, s.causeEvents? anomaly = none) ∧ s.endings? = none := by
  intro x s
  have hend : x.endTime? = none := by decide +kernel
  have hspan : ∃ x ∈ s.spans, x.endTime? = none := ⟨x, List.mem_singleton_self x, hend⟩
  exact ⟨by decide +kernel, by decide, hend, fun _ _ _ ↦ FlowContext.assemble?_eq_none_iff.2 hspan,
    fun _ ↦ causeEvents?_eq_none_iff.2 hspan, endings?_eq_none_iff.2 hspan⟩

end Signals

end FlowCorrelation
