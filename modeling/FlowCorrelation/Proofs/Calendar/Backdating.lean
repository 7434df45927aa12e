import FlowCorrelation.Calendar.Instant

namespace FlowCorrelation.Instant

/-- Whether the instant lies outside leap seconds. -/
def IsPlain (t : Instant) : Prop := t.nanos < 1000000000

instance (t : Instant) : Decidable t.IsPlain := inferInstanceAs (Decidable (_ < _))

def nanoCount (t : Instant) : Int := t.seconds * 1000000000 + t.nanos

variable {a b t : Instant}

theorem IsPlain.le_iff_nanoCount (ha : a.IsPlain) (hb : b.IsPlain) :
    a ≤ b ↔ a.nanoCount ≤ b.nanoCount := by
  simp only [le_iff, IsPlain, nanoCount] at *
  omega

theorem IsPlain.shift (ht : t.IsPlain) (d : Span) : (t.shift d).IsPlain := by
  have hleap : ¬ 1000000000 ≤ t.nanos := Nat.not_le.2 ht
  simp only [IsPlain, Instant.shift, hleap, false_and, if_false,
    Int.fmod_eq_emod_of_nonneg _ (by decide : (0 : Int) ≤ 1000000000)]
  omega

theorem IsPlain.nanoCount_shift (ht : t.IsPlain) (d : Span) :
    (t.shift d).nanoCount = t.nanoCount + d := by
  have hleap : ¬ 1000000000 ≤ t.nanos := Nat.not_le.2 ht
  have hd := Int.mul_tdiv_add_tmod d 1000000000
  simp only [nanoCount, Instant.shift, hleap, false_and, if_false,
    Int.fmod_eq_emod_of_nonneg _ (by decide : (0 : Int) ≤ 1000000000),
    Int.fdiv_eq_ediv_of_nonneg _ (by decide : (0 : Int) ≤ 1000000000)]
  omega

theorem eq_shift_of_sub? {d : Span} (h : t.sub? d = some a) : a = t.shift (-d) := by
  simp only [sub?, add?] at h
  split at h
  · exact (Option.some.inj h).symm
  · cases h

theorem IsPlain.sub?_le_sub? {d : Span} {a' b' : Instant} (ha : a.IsPlain) (hb : b.IsPlain)
    (hab : a ≤ b) (ha' : a.sub? d = some a') (hb' : b.sub? d = some b') : a' ≤ b' := by
  rw [eq_shift_of_sub? ha', eq_shift_of_sub? hb', (ha.shift _).le_iff_nanoCount (hb.shift _),
    ha.nanoCount_shift, hb.nanoCount_shift]
  have h := (ha.le_iff_nanoCount hb).1 hab
  omega

theorem sub?_le {d : Span} (hd : 0 ≤ d) (ht : t.nanos < 2000000000) (h : t.sub? d = some a) :
    a ≤ t := by
  have hsecs : (-d).tdiv 1000000000 = -(d / 1000000000) := by
    rw [Int.neg_tdiv, Int.tdiv_eq_ediv_of_nonneg hd]
  have hfrac : (-d).tmod 1000000000 = -(d % 1000000000) := by
    rw [Int.neg_tmod, Int.tmod_eq_emod_of_nonneg hd]
  rw [eq_shift_of_sub? h, le_iff]
  simp only [shift, hsecs, hfrac, Int.fdiv_eq_ediv_of_nonneg _ (by decide : (0 : Int) ≤ 1000000000),
    Int.fmod_eq_emod_of_nonneg _ (by decide : (0 : Int) ≤ 1000000000)]
  have hq : (0 : Int) ≤ d / 1000000000 := Int.ediv_nonneg hd (by decide)
  have hr : (0 : Int) ≤ d % 1000000000 := Int.emod_nonneg d (by decide)
  split
  · dsimp only
    omega
  · split <;> split <;> dsimp only <;> omega

def OpensBy (d : Span) (now since : Instant) : Prop :=
  ∀ opened, now.sub? d = some opened → opened ≤ since

theorem opensBy_self {d : Span} (hd : 0 ≤ d) (ht : t.nanos < 2000000000) : OpensBy d t t :=
  fun _ ↦ sub?_le hd ht

theorem OpensBy.mono {d : Span} (h : OpensBy d t a) (hab : a ≤ b) : OpensBy d t b :=
  fun opened ho ↦ le_trans (h opened ho) hab

/-- Within an interval no longer than the window no window opens after the interval. -/
theorem IsPlain.opensBy {d : Span} (ha : a.IsPlain) (hb : b.IsPlain) (ht : t.IsPlain) (htb : t ≤ b)
    (hlength : b.since a ≤ d) : OpensBy d t a := by
  intro opened ho
  have hle := (ht.le_iff_nanoCount hb).1 htb
  have hleap : b.leapBetween a = 0 := by simp [leapBetween, Nat.not_le.2 ha, Nat.not_le.2 hb]
  have hspan : (b.seconds - a.seconds + 0) * 1000000000 + ((b.nanos : Int) - a.nanos) ≤ d :=
    hleap ▸ hlength
  have hlength' : b.nanoCount - a.nanoCount ≤ d := by
    simp only [nanoCount]
    omega
  rw [eq_shift_of_sub? ho, (ht.shift _).le_iff_nanoCount ha, ht.nanoCount_shift]
  omega

/-- The order is lost across the end of a leap second. -/
example : (⟨59, 1500000000⟩ : Instant) ≤ ⟨60, 0⟩ ∧
    (⟨59, 1500000000⟩ : Instant).sub? 1000000000 = some ⟨59, 500000000⟩ ∧
    (⟨60, 0⟩ : Instant).sub? 1000000000 = some ⟨59, 0⟩ := by decide

end FlowCorrelation.Instant
