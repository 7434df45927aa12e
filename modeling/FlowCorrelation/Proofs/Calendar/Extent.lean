import FlowCorrelation.Calendar.Date
import FlowCorrelation.Proofs.Calendar.Backdating

namespace FlowCorrelation.Instant

/-- Whether the year of an instant is one of 0 to 9999. -/
def InUnsignedYears (t : Instant) : Prop :=
  Date.toDays ⟨0, 1, 1⟩ * 86400 ≤ t.seconds ∧ t.seconds < Date.toDays ⟨10000, 1, 1⟩ * 86400 ∧
    t.nanos < 2000000000

instance (t : Instant) : Decidable t.InUnsignedYears := by
  unfold InUnsignedYears
  infer_instance

/-- The count of nanoseconds from which a span is added: a leap second counts as the second before
it on the way ahead, and as the second after it on the way back. -/
def countToward (t : Instant) (d : Int) : Int :=
  if 1000000000 ≤ t.nanos ∧ 0 < d then t.nanoCount - 1000000000 else t.nanoCount

def CountInCalendar (n : Int) : Prop :=
  firstSecond * 1000000000 ≤ n ∧ n < (lastSecond + 1) * 1000000000

instance (n : Int) : Decidable (CountInCalendar n) := by
  unfold CountInCalendar
  infer_instance

variable {t : Instant}

theorem inUnsignedYears_iff : t.InUnsignedYears ↔
    -62167219200 ≤ t.seconds ∧ t.seconds < 253402300800 ∧ t.nanos < 2000000000 := by
  rw [InUnsignedYears, show Date.toDays ⟨0, 1, 1⟩ * 86400 = -62167219200 by decide,
    show Date.toDays ⟨10000, 1, 1⟩ * 86400 = 253402300800 by decide]

theorem IsPlain.inCalendar_iff (ht : t.IsPlain) : t.InCalendar ↔ CountInCalendar t.nanoCount := by
  simp only [IsPlain, InCalendar, CountInCalendar, nanoCount, firstSecond, lastSecond] at *
  omega

theorem inCalendar_shift_of_leap (ht : t.InUnsignedYears) (hleap : 1000000000 ≤ t.nanos)
    (d : Int) : (t.shift d).InCalendar ↔ CountInCalendar (t.countToward d + d) := by
  obtain ⟨hfirst, hlast, hnanos⟩ := inUnsignedYears_iff.1 ht
  simp only [shift, hleap, true_and, if_true, countToward, InCalendar, CountInCalendar, nanoCount,
    firstSecond, lastSecond, Int.fdiv_eq_ediv_of_nonneg _ (by decide : (0 : Int) ≤ 1000000000)]
  by_cases hd : 0 < d
  · have hd' : 0 ≤ d := Int.le_of_lt hd
    rw [if_pos hd, Int.tdiv_eq_ediv_of_nonneg hd', Int.tmod_eq_emod_of_nonneg hd']
    split <;> dsimp only
    · omega
    · split <;> omega
  · obtain ⟨e, rfl⟩ : ∃ e, d = -e := ⟨-d, (Int.neg_neg d).symm⟩
    rw [if_neg hd, Int.neg_tdiv, Int.neg_tmod, Int.tdiv_eq_ediv_of_nonneg (by omega),
      Int.tmod_eq_emod_of_nonneg (by omega)]
    split <;> dsimp only
    · omega
    · split <;> omega

theorem inCalendar_shift_iff (ht : t.InUnsignedYears) (d : Span) :
    (t.shift d).InCalendar ↔ CountInCalendar (t.countToward d + d) := by
  by_cases hplain : t.IsPlain
  · have hleap : ¬ 1000000000 ≤ t.nanos := Nat.not_le.2 hplain
    rw [(hplain.shift d).inCalendar_iff, hplain.nanoCount_shift, countToward,
      if_neg (fun h ↦ hleap h.1)]
  · exact inCalendar_shift_of_leap ht (Nat.not_lt.1 hplain) d

theorem add?_eq_none_iff (ht : t.InUnsignedYears) (d : Span) :
    t.add? d = none ↔ ¬ CountInCalendar (t.countToward d + d) := by
  rw [← inCalendar_shift_iff ht, add?]
  split <;> simp_all

/-- From every unsigned year the calendar reaches 252,000 years ahead and 262,000 back. -/
theorem add?_ne_none_of_short (ht : t.InUnsignedYears) {d : Int}
    (hback : -8272434009600 * 1000000000 ≤ d) (hahead : d ≤ 7956864576000 * 1000000000) :
    t.add? d ≠ none := by
  obtain ⟨hfirst, hlast, hnanos⟩ := inUnsignedYears_iff.1 ht
  refine fun hnone ↦ (add?_eq_none_iff ht d).1 hnone ?_
  simp only [CountInCalendar, countToward, nanoCount, firstSecond, lastSecond]
  split <;> omega

/-- From no unsigned year does the calendar reach 263,000 years ahead or 273,000 back. -/
theorem add?_eq_none_of_long (ht : t.InUnsignedYears) {d : Int}
    (h : d ≤ -8588003529601 * 1000000000 ∨ 8272434096000 * 1000000000 ≤ d) : t.add? d = none := by
  obtain ⟨hfirst, hlast, hnanos⟩ := inUnsignedYears_iff.1 ht
  rw [add?_eq_none_iff ht]
  simp only [CountInCalendar, countToward, nanoCount, firstSecond, lastSecond]
  split <;> omega

end FlowCorrelation.Instant
