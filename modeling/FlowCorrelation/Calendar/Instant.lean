import FlowCorrelation.Numeral.Word

namespace FlowCorrelation

@[ext] structure Instant where
  seconds : Int
  nanos : Nat
deriving DecidableEq, Repr, Inhabited

abbrev Span := Int

namespace Instant

def epoch : Instant := ⟨0, 0⟩

def firstSecond : Int := -8334601228800

def lastSecond : Int := 8210266876799

def InCalendar (t : Instant) : Prop := firstSecond ≤ t.seconds ∧ t.seconds ≤ lastSecond

instance (t : Instant) : Decidable t.InCalendar :=
  inferInstanceAs (Decidable (firstSecond ≤ t.seconds ∧ t.seconds ≤ lastSecond))

instance : LT Instant where
  lt a b := a.seconds < b.seconds ∨ (a.seconds = b.seconds ∧ a.nanos < b.nanos)

instance : LE Instant where
  le a b := a.seconds < b.seconds ∨ (a.seconds = b.seconds ∧ a.nanos ≤ b.nanos)

theorem lt_iff {a b : Instant} :
    a < b ↔ a.seconds < b.seconds ∨ (a.seconds = b.seconds ∧ a.nanos < b.nanos) := Iff.rfl

theorem le_iff {a b : Instant} :
    a ≤ b ↔ a.seconds < b.seconds ∨ (a.seconds = b.seconds ∧ a.nanos ≤ b.nanos) := Iff.rfl

instance (a b : Instant) : Decidable (a < b) := decidable_of_iff _ lt_iff.symm

instance (a b : Instant) : Decidable (a ≤ b) := decidable_of_iff _ le_iff.symm

variable {a b c : Instant}

@[simp] theorem le_refl (a : Instant) : a ≤ a := by simp [le_iff]

theorem le_trans (h : a ≤ b) (h' : b ≤ c) : a ≤ c := by
  simp only [le_iff] at *; omega

theorem le_antisymm (h : a ≤ b) (h' : b ≤ a) : a = b := by
  simp only [le_iff] at *; ext <;> omega

theorem le_total (a b : Instant) : a ≤ b ∨ b ≤ a := by
  simp only [le_iff]; omega

theorem not_le : ¬ a ≤ b ↔ b < a := by
  simp only [le_iff, lt_iff]; omega

theorem not_lt : ¬ a < b ↔ b ≤ a := by
  simp only [le_iff, lt_iff]; omega

def earliest (a b : Instant) : Instant := if b < a then b else a

def latest (a b : Instant) : Instant := if a ≤ b then b else a

def secondOfDay (t : Instant) : Int := t.seconds % 86400

/-- The leap second that lies between the times of day of two instants, if one of them stands
in it: plus or minus one. -/
def leapBetween (a b : Instant) : Int :=
  if b.secondOfDay < a.secondOfDay ∧ 1000000000 ≤ b.nanos then 1
  else if a.secondOfDay < b.secondOfDay ∧ 1000000000 ≤ a.nanos then -1
  else 0

def since (a b : Instant) : Span :=
  (a.seconds - b.seconds + leapBetween a b) * 1000000000 + ((a.nanos : Int) - b.nanos)

/-- The span from `b` to `a` in whole microseconds, the rest dropped; a span beyond 64 bits
counts as the longest. -/
def microsSince (a b : Instant) : Int :=
  let micros := (a.since b).tdiv 1000
  if Word.holds micros then micros else Word.greatest

def shift (t : Instant) (d : Span) : Instant :=
  let secs := d.tdiv 1000000000
  let frac := d.tmod 1000000000
  let leap := 1000000000 ≤ t.nanos
  let leaves := 0 < secs ∨ (0 < frac ∧ 2000000000 ≤ (t.nanos : Int) + frac)
  if leap ∧ ¬ leaves ∧ ¬ secs < 0 then ⟨t.seconds, (t.nanos + frac).toNat⟩
  else
    let start := if leap ∧ ¬ leaves then t.seconds + 1 else t.seconds
    let nanos : Int := (if leap then (t.nanos : Int) - 1000000000 else t.nanos) + frac
    ⟨start + secs + nanos.fdiv 1000000000, (nanos.fmod 1000000000).toNat⟩

def add? (t : Instant) (d : Span) : Option Instant :=
  let u := t.shift d
  if u.InCalendar then some u else none

def sub? (t : Instant) (d : Span) : Option Instant := t.add? (-d)

def toMillis (t : Instant) : Int := t.seconds * 1000 + (t.nanos / 1000000 : Nat)

def ofMillis? (n : Int) : Option Instant :=
  let t : Instant := ⟨n.fdiv 1000, (n.fmod 1000).toNat * 1000000⟩
  if t.InCalendar then some t else none

end Instant

end FlowCorrelation
