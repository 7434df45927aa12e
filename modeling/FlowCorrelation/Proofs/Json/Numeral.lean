import FlowCorrelation.Json.Reader
import Mathlib.Data.List.TakeDrop
import Mathlib.Data.List.TakeWhile
import Mathlib.Tactic.SplitIfs

namespace FlowCorrelation.Json

variable {α β : Type} {j : Json} {c : Char} {l r : List Char}

def IsNumeralChar (c : Char) : Prop := c.isDigit ∨ c ∈ ['.', 'e', 'E', '+', '-']

instance : DecidablePred IsNumeralChar := fun c ↦
  inferInstanceAs (Decidable (c.isDigit ∨ c ∈ ['.', 'e', 'E', '+', '-']))

theorem IsNumeralChar.ne (hc : IsNumeralChar c) {b : Char} (hb : ¬ IsNumeralChar b) : c ≠ b :=
  fun heq ↦ hb (heq ▸ hc)

theorem IsNumeralChar.isSpace_eq_false (hc : IsNumeralChar c) : isSpace c = false := by
  have hspace {b : Char} (hb : ¬ IsNumeralChar b) : (c = b) = False := eq_false (hc.ne hb)
  simp [isSpace, hspace (b := ' ') (by decide), hspace (b := '\n') (by decide),
    hspace (b := '\t') (by decide), hspace (b := '\r') (by decide)]

theorem IsNumeralChar.toNat_le (hc : IsNumeralChar c) : 0x20 ≤ c.toNat := by
  rcases hc with hdigit | hmark
  · have hrange : 48 ≤ c.val ∧ c.val ≤ 57 := by simpa [Char.isDigit] using hdigit
    exact Nat.le_trans (by decide) (UInt32.le_iff_toNat_le.1 hrange.1)
  · simp only [List.mem_cons, List.not_mem_nil, or_false] at hmark
    rcases hmark with rfl | rfl | rfl | rfl | rfl <;> decide

def EndsNumeral (l : List Char) : Prop := ∀ c ∈ l.head?, ¬ IsNumeralChar c

theorem endsNumeral_nil : EndsNumeral [] := by
  intro c hc
  cases hc

theorem endsNumeral_cons (hc : ¬ IsNumeralChar c) : EndsNumeral (c :: l) := by
  rintro b ⟨⟩
  exact hc

/-- Whether a reader takes characters of numerals only, and the same ones whatever follows the
numeral. -/
def IsLocal (f : Reader α) : Prop :=
  ∀ l a r, f l = some (a, r) →
    (∃ taken, l = taken ++ r ∧ ∀ c ∈ taken, IsNumeralChar c) ∧
      ∀ rest, EndsNumeral rest → f (l ++ rest) = some (a, r ++ rest)

namespace IsLocal

theorem pure (o : Option α) : IsLocal (fun l ↦ o.map (·, l)) := by
  intro l a r h
  obtain ⟨b, rfl, hpair⟩ := Option.map_eq_some_iff.1 h
  cases hpair
  exact ⟨⟨[], rfl, by simp⟩, fun rest _ ↦ rfl⟩

theorem ite (p : Prop) [Decidable p] {f g : Reader α} (hf : IsLocal f) (hg : IsLocal g) :
    IsLocal (fun l ↦ if p then f l else g l) := by
  split_ifs
  · exact hf
  · exact hg

theorem bind {f : Reader α} {g : α → Reader β} (hf : IsLocal f) (hg : ∀ a, IsLocal (g a)) :
    IsLocal (fun l ↦ (f l).bind (fun (a, r) ↦ g a r)) := by
  intro l b r h
  obtain ⟨⟨a, mid⟩, hfirst, hsecond⟩ := Option.bind_eq_some_iff.1 h
  obtain ⟨⟨front, hl, hfront⟩, hf⟩ := hf l a mid hfirst
  obtain ⟨⟨back, hmid, hback⟩, hg⟩ := hg a mid b r hsecond
  refine ⟨⟨front ++ back, by rw [hl, hmid, List.append_assoc], fun c hc ↦ ?_⟩, fun rest hrest ↦ ?_⟩
  · exact (List.mem_append.1 hc).elim (hfront c) (hback c)
  · simp only [hf rest hrest, Option.bind_some, hg rest hrest]

theorem branch {f yes no : Reader α} {p : Char → Prop} (hp : ∀ c, p c → IsNumeralChar c)
    (hyes : IsLocal yes) (hno : IsLocal no) (hfyes : ∀ c l, p c → f (c :: l) = yes l)
    (hfno : ∀ l, (∀ c ∈ l.head?, ¬ p c) → f l = no l) : IsLocal f := by
  intro l a r h
  by_cases hhead : ∃ c ∈ l.head?, p c
  · obtain ⟨c, hc, hpc⟩ := hhead
    obtain ⟨l, rfl⟩ := List.head?_eq_some_iff.1 hc
    obtain ⟨⟨taken, hl, htaken⟩, hrest⟩ := hyes l a r ((hfyes c l hpc).symm.trans h)
    refine ⟨⟨c :: taken, by rw [hl, List.cons_append], fun b hb ↦ ?_⟩, fun rest hstop ↦ ?_⟩
    · exact (List.mem_cons.1 hb).elim (fun heq ↦ heq ▸ hp c hpc) (htaken b)
    · exact (hfyes c _ hpc).trans (hrest rest hstop)
  · -- What follows the text decides only where the text is empty, and there it ends the numeral.
    have hnone : ∀ c ∈ l.head?, ¬ p c := fun c hc hpc ↦ hhead ⟨c, hc, hpc⟩
    obtain ⟨htaken, hrest⟩ := hno l a r ((hfno l hnone).symm.trans h)
    refine ⟨htaken, fun rest hstop ↦ (hfno _ ?_).trans (hrest rest hstop)⟩
    cases l with
    | nil => exact fun c hc hpc ↦ hstop c hc (hp c hpc)
    | cons c l => exact hnone

end IsLocal

theorem takeDigits_eq (l : List Char) :
    takeDigits l = (l.takeWhile Char.isDigit, l.dropWhile Char.isDigit) :=
  List.span_eq_takeWhile_dropWhile Char.isDigit l

theorem takeDigits_append {rest : List Char} (hrest : EndsNumeral rest) (l : List Char) :
    takeDigits (l ++ rest) = ((takeDigits l).1, (takeDigits l).2 ++ rest) := by
  simp only [takeDigits_eq]
  induction l with
  | nil =>
    cases rest with
    | nil => rfl
    | cons c rest =>
      have hc : ¬ c.isDigit := fun hc ↦ hrest c rfl (Or.inl hc)
      simp [hc]
  | cons c l ih =>
    obtain ⟨htake, hdrop⟩ := Prod.mk.inj ih
    by_cases hc : c.isDigit <;> simp [hc, htake, hdrop]

theorem isLocal_takeDigits : IsLocal (fun l ↦ some (takeDigits l)) := by
  intro l ds r h
  obtain ⟨hds, hr⟩ : l.takeWhile Char.isDigit = ds ∧ l.dropWhile Char.isDigit = r := by
    simpa [takeDigits_eq] using h
  have htaken : l = ds ++ r := by rw [← hds, ← hr, List.takeWhile_append_dropWhile]
  refine ⟨⟨ds, htaken, fun c hc ↦ Or.inl (List.mem_takeWhile_imp (hds ▸ hc))⟩, fun rest hrest ↦ ?_⟩
  exact congrArg some ((takeDigits_append hrest l).trans (by rw [Option.some.inj h]))

def digits : Reader (List Char) := fun l ↦
  match takeDigits l with
  | ([], _) => none
  | (ds, r) => some (ds, r)

theorem isLocal_digits : IsLocal digits := by
  have hbind : digits = fun l ↦ (some (takeDigits l)).bind (fun p ↦
      (if p.1.isEmpty then none else some p.1).map (·, p.2)) := by
    funext l
    rw [Option.bind_some, digits]
    rcases takeDigits l with ⟨_ | ⟨d, ds⟩, r⟩ <;> rfl
  rw [hbind]
  exact isLocal_takeDigits.bind (fun ds ↦ IsLocal.pure (if ds.isEmpty then none else some ds))

theorem isLocal_fractionDigits : IsLocal fractionDigits := by
  refine IsLocal.branch (p := (· = '.')) (by simp [IsNumeralChar]) isLocal_digits
    (IsLocal.pure (some [])) (fun c l hc ↦ by rw [hc]; rfl) (fun l hhead ↦ ?_)
  cases l with
  | nil => rfl
  | cons c l => exact fractionDigits.eq_2 _ (fun r hr ↦ hhead c rfl (List.cons.inj hr).1)

def exponentSign (l : List Char) : Bool × List Char :=
  match l with
  | '-' :: r => (true, r)
  | '+' :: r => (false, r)
  | r => (false, r)

theorem isLocal_exponentSign : IsLocal (fun l ↦ some (exponentSign l)) := by
  have hplus : IsLocal (fun l ↦ some (false, if l.head? = some '+' then l.tail else l)) := by
    refine IsLocal.branch (p := (· = '+')) (by simp [IsNumeralChar]) (IsLocal.pure (some false))
      (IsLocal.pure (some false)) (fun c l hc ↦ by rw [hc]; rfl) (fun l hhead ↦ ?_)
    have hother : l.head? ≠ some '+' := fun hplus ↦ hhead '+' hplus rfl
    rw [if_neg hother]
    rfl
  refine IsLocal.branch (p := (· = '-')) (by simp [IsNumeralChar]) (IsLocal.pure (some true)) hplus
    (fun c l hc ↦ by rw [hc]; rfl) (fun l hhead ↦ ?_)
  unfold exponentSign
  split
  · exact absurd rfl (hhead '-' rfl)
  · rfl
  · rename_i hother
    have hhead : l.head? ≠ some '+' := by
      intro hplus
      obtain ⟨r, hr⟩ := List.head?_eq_some_iff.1 hplus
      exact hother r hr
    rw [if_neg hhead]

theorem exponentPart_mark (hc : c = 'e' ∨ c = 'E') (l : List Char) :
    exponentPart (c :: l) = (some (exponentSign l)).bind (fun (negative, r) ↦
      (digits r).bind (fun (ds, r) ↦
        (some (some (if negative then -(digitsValue ds : Int) else digitsValue ds))).map (·, r))) := by
  have hmark : exponentPart (c :: l) = match takeDigits (exponentSign l).2 with
      | ([], _) => none
      | (ds, r) =>
        some (some (if (exponentSign l).1 then -(digitsValue ds : Int) else digitsValue ds), r) := by
    rcases hc with rfl | rfl <;> rfl
  rw [hmark, Option.bind_some]
  simp only [digits]
  rcases takeDigits (exponentSign l).2 with ⟨_ | ⟨d, ds⟩, r⟩ <;> rfl

theorem isLocal_exponentPart : IsLocal exponentPart := by
  refine IsLocal.branch (p := (fun c ↦ c = 'e' ∨ c = 'E')) ?_
    (isLocal_exponentSign.bind (fun negative ↦ isLocal_digits.bind (fun ds ↦
      IsLocal.pure (some (some (if negative then -(digitsValue ds : Int) else digitsValue ds))))))
    (IsLocal.pure (some none)) (fun c l hc ↦ exponentPart_mark hc l) (fun l hhead ↦ ?_)
  · rintro c (rfl | rfl) <;> simp [IsNumeralChar]
  · cases l with
    | nil => rfl
    | cons c l => simp only [exponentPart, if_neg (hhead c rfl), Option.map_some]

def afterWhole (negative : Bool) (whole : List Char) : Reader Json := fun r ↦
  (fractionDigits r).bind (fun (frac, r) ↦ (exponentPart r).bind (fun (exponent, r) ↦
    (if frac.isEmpty ∧ exponent = none then integerValue negative whole
      else realValue negative whole frac (exponent.getD 0)).map (·, r)))

theorem unsigned_eq (negative : Bool) (l : List Char) :
    unsigned negative l = (some (takeDigits l)).bind (fun (whole, r) ↦
      if whole.isEmpty ∨ (1 < whole.length ∧ whole.head? = some '0') then none
      else afterWhole negative whole r) := by
  rw [unsigned, Option.bind_some]
  rcases takeDigits l with ⟨whole, r⟩
  simp only
  split_ifs with hwhole
  · rfl
  · refine Option.bind_congr (fun (frac, r) _ ↦ Option.bind_congr (fun (exponent, r) _ ↦ ?_))
    simp only
    split_ifs <;> exact Option.map_eq_bind.symm

theorem isLocal_afterWhole (negative : Bool) (whole : List Char) :
    IsLocal (afterWhole negative whole) :=
  isLocal_fractionDigits.bind (fun frac ↦ isLocal_exponentPart.bind (fun exponent ↦
    IsLocal.pure (if frac.isEmpty ∧ exponent = none then integerValue negative whole
      else realValue negative whole frac (exponent.getD 0))))

theorem isLocal_unsigned (negative : Bool) : IsLocal (unsigned negative) := by
  have hrest (whole : List Char) : IsLocal (fun r ↦
      if whole.isEmpty ∨ (1 < whole.length ∧ whole.head? = some '0') then none
      else afterWhole negative whole r) :=
    IsLocal.ite _ (IsLocal.pure none) (isLocal_afterWhole negative whole)
  rw [funext (unsigned_eq negative)]
  exact isLocal_takeDigits.bind hrest

theorem isLocal_number : IsLocal number := by
  refine IsLocal.branch (p := (· = '-')) (by simp [IsNumeralChar]) (isLocal_unsigned true)
    (isLocal_unsigned false) (fun c l hc ↦ by rw [hc]; rfl) (fun l hhead ↦ ?_)
  rw [number.eq_2]
  rintro r rfl
  exact hhead '-' rfl rfl

/-- A numeral that is read to its end is read in the same way before a text that ends it. -/
theorem number_append (h : number l = some (j, [])) (hr : EndsNumeral r) :
    number (l ++ r) = some (j, r) :=
  (isLocal_number l j [] h).2 r hr

theorem isNumeralChar_of_number (h : number l = some (j, [])) : ∀ c ∈ l, IsNumeralChar c := by
  obtain ⟨⟨taken, hl, htaken⟩, -⟩ := isLocal_number l j [] h
  rwa [hl, List.append_nil]

end FlowCorrelation.Json
