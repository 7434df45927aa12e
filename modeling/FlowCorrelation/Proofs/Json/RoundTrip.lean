import FlowCorrelation.Json.Writer
import FlowCorrelation.Proofs.Json.Numeral

namespace FlowCorrelation.Json

variable {α : Type} {depth : Nat} {j : Json} {c : Char} {l r : List Char}

theorem hexValue?_digitChar : ∀ n < 16, hexValue? (Nat.digitChar n) = some n := by decide

theorem numericEscape_control (hc : c.toNat < 0x20) :
    numericEscape ('0' :: '0' :: Nat.digitChar (c.toNat / 16) :: Nat.digitChar (c.toNat % 16) :: r) =
      some (c, r) := by
  have hzero : hexValue? '0' = some 0 := by decide
  have hhigh := hexValue?_digitChar (c.toNat / 16) (by omega)
  have hlow := hexValue?_digitChar (c.toNat % 16) (by omega)
  have hunit : hexUnit
      ('0' :: '0' :: Nat.digitChar (c.toNat / 16) :: Nat.digitChar (c.toNat % 16) :: r) =
        some (c.toNat, r) := by
    have hvalue : ((0 * 16 + 0) * 16 + c.toNat / 16) * 16 + c.toNat % 16 = c.toNat := by omega
    simp only [hexUnit, hzero, hhigh, hlow, Option.bind_eq_bind, Option.bind_some, hvalue, pure]
  have hbelow : isLowSurrogate c.toNat = false ∧ isHighSurrogate c.toNat = false := by
    simp [isLowSurrogate, isHighSurrogate]
    omega
  simp only [numericEscape, hunit, Option.bind_eq_bind, Option.bind_some, hbelow, pure,
    Bool.false_eq_true, if_false, Char.ofNat_toNat]

theorem stringBody_escapedChar (fuel : Nat) (c : Char) (l : List Char) :
    stringBody (fuel + 1) (escapedChar c ++ l) =
      (stringBody fuel l).map (fun (cs, r) ↦ (c :: cs, r)) := by
  have hescape {e : List Char} (he : escape e = some (c, l)) :
      stringBody (fuel + 1) ('\\' :: e) = (stringBody fuel l).map (fun (cs, r) ↦ (c :: cs, r)) := by
    simp only [stringBody, he, Option.bind_eq_bind, Option.bind_some]
    cases stringBody fuel l <;> rfl
  simp only [escapedChar]
  split_ifs with h₁ h₂ h₃ h₄ h₅ h₆ h₇ h₈
  · exact hescape (by rw [h₁]; rfl)
  · exact hescape (by rw [h₂]; rfl)
  · exact hescape (by rw [h₃]; rfl)
  · exact hescape (by rw [h₄]; rfl)
  · exact hescape (by rw [h₅]; rfl)
  · exact hescape (by rw [h₆]; rfl)
  · exact hescape (by rw [h₇]; rfl)
  · exact hescape (numericEscape_control h₈)
  · have hplain : stringBody (fuel + 1) (c :: l) =
        if c.toNat < 0x20 then none
        else (stringBody fuel l).map (fun (cs, r) ↦ (c :: cs, r)) := by
      rw [stringBody.eq_def]
      split <;> simp_all
    rw [List.singleton_append, hplain, if_neg h₈]

theorem stringBody_flatMap (cs : List Char) {fuel : Nat} (h : cs.length < fuel) :
    stringBody fuel (cs.flatMap escapedChar ++ '"' :: r) = some (cs, r) := by
  induction cs generalizing fuel with
  | nil =>
    cases fuel with
    | zero => exact absurd h (Nat.not_lt_zero _)
    | succ fuel => rfl
  | cons c cs ih =>
    cases fuel with
    | zero => exact absurd h (Nat.not_lt_zero _)
    | succ fuel =>
      have hrest := ih (Nat.lt_of_succ_lt_succ h)
      rw [List.flatMap_cons, List.append_assoc, stringBody_escapedChar, hrest, Option.map_some]

theorem length_le_length_flatMap_escapedChar (cs : List Char) :
    cs.length ≤ (cs.flatMap escapedChar).length := by
  induction cs with
  | nil => exact Nat.le_refl 0
  | cons c cs ih =>
    have hpos : 1 ≤ (escapedChar c).length := by
      simp only [escapedChar]
      split_ifs <;> simp
    rw [List.flatMap_cons, List.length_append, List.length_cons]
    omega

theorem string_flatMap (s : String) :
    string (s.toList.flatMap escapedChar ++ '"' :: r) = some (s, r) := by
  have hfuel : s.toList.length < (s.toList.flatMap escapedChar ++ '"' :: r).length + 1 := by
    have hlength := length_le_length_flatMap_escapedChar s.toList
    rw [List.length_append]
    omega
  simp only [string, stringBody_flatMap s.toList hfuel, Option.map_some, String.ofList_toList]

theorem stringChars_append (s : String) :
    stringChars s ++ r = '"' :: (s.toList.flatMap escapedChar ++ '"' :: r) := by
  simp [stringChars]

def following (text : α → List Char) (as : List α) : List Char := as.flatMap (fun a ↦ ',' :: text a)

def separated (text : α → List Char) : List α → List Char
  | [] => []
  | a :: as => text a ++ following text as

/-- Whether a reader takes the text of an item off the front, and the text starts with neither a
space nor the closing bracket. -/
structure ReadsItem (item : Reader α) (text : α → List Char) (close : Char) (a : α) : Prop where
  head : ∃ c l, text a = c :: l ∧ isSpace c = false ∧ c ≠ close
  read : ∀ r, EndsNumeral r → item (text a ++ r) = some (a, r)

theorem skipSpace_cons (h : isSpace c = false) : skipSpace (c :: l) = c :: l := by
  simp [skipSpace, List.dropWhile, h]

section Items

variable {item : Reader α} {text : α → List Char} {close : Char}

theorem following_cons (a : α) (as : List α) :
    following text (a :: as) = ',' :: (text a ++ following text as) := rfl

theorem length_le_length_following (text : α → List Char) (as : List α) :
    as.length ≤ (following text as).length := by
  induction as with
  | nil => exact Nat.le_refl 0
  | cons a as ih =>
    rw [following_cons, List.length_cons, List.length_cons, List.length_append]
    omega

theorem endsNumeral_following (hclose : close = ']' ∨ close = '\x7d') (text : α → List Char)
    (as : List α) (r : List Char) : EndsNumeral (following text as ++ close :: r) := by
  cases as with
  | nil => exact endsNumeral_cons (by rcases hclose with rfl | rfl <;> decide)
  | cons a as => exact endsNumeral_cons (by decide)

theorem moreItems_following (hclose : close = ']' ∨ close = '\x7d') {as : List α}
    (h : ∀ a ∈ as, ReadsItem item text close a) {fuel : Nat} (hfuel : as.length < fuel) :
    moreItems item close fuel (following text as ++ close :: r) = some (as, r) := by
  have hspace : isSpace close = false ∧ ',' ≠ close := by rcases hclose with rfl | rfl <;> decide
  induction as generalizing fuel with
  | nil =>
    cases fuel with
    | zero => exact absurd hfuel (Nat.not_lt_zero _)
    | succ fuel => simp [following, moreItems, skipSpace_cons hspace.1]
  | cons a as ih =>
    cases fuel with
    | zero => exact absurd hfuel (Nat.not_lt_zero _)
    | succ fuel =>
      have hread := (h a List.mem_cons_self).read _ (endsNumeral_following hclose text as r)
      have hrest := ih (fun b hb ↦ h b (List.mem_cons_of_mem a hb)) (Nat.lt_of_succ_lt_succ hfuel)
      rw [following_cons, List.cons_append, List.append_assoc, moreItems,
        skipSpace_cons (by decide)]
      simp only [if_neg hspace.2, hread, hrest, if_true, Option.bind_eq_bind, Option.bind_some,
        pure]

theorem items_separated (hclose : close = ']' ∨ close = '\x7d') {as : List α}
    (h : ∀ a ∈ as, ReadsItem item text close a) :
    items item close (separated text as ++ close :: r) = some (as, r) := by
  cases as with
  | nil =>
    have hspace : isSpace close = false := by rcases hclose with rfl | rfl <;> decide
    simp [items, separated, skipSpace_cons hspace]
  | cons a as =>
    obtain ⟨c, l, htext, hspace, hc⟩ := (h a List.mem_cons_self).head
    have hread := (h a List.mem_cons_self).read _ (endsNumeral_following hclose text as r)
    have hfuel : as.length < (following text as ++ close :: r).length + 1 := by
      have hlength := length_le_length_following text as
      rw [List.length_append]
      omega
    have hmore := moreItems_following (r := r) hclose
      (fun b hb ↦ h b (List.mem_cons_of_mem a hb)) hfuel
    rw [htext, List.cons_append] at hread
    rw [separated, List.append_assoc, htext, List.cons_append, items, skipSpace_cons hspace]
    simp only [if_neg hc, hread, hmore, Option.bind_eq_bind, Option.bind_some, pure]

end Items

theorem itemChars_eq (js : List Json) : itemChars js = separated chars js := by
  induction js with
  | nil => rfl
  | cons j js ih =>
    cases js with
    | nil => simp [itemChars, separated, following]
    | cons k js => rw [itemChars, ih]; rfl

def memberText (e : String × Json) : List Char := stringChars e.1 ++ ':' :: chars e.2

theorem memberChars_eq (m : Members) : memberChars m = separated memberText m := by
  induction m with
  | nil => rfl
  | cons e m ih =>
    cases m with
    | nil => simp [memberChars, separated, following, memberText]
    | cons k m => rw [memberChars, ih]; rfl

theorem value_string (depth : Nat) (s : String) (r : List Char) :
    value depth (stringChars s ++ r) = some (.text s, r) := by
  have hvalue : value depth ('"' :: (s.toList.flatMap escapedChar ++ '"' :: r)) =
      (string (s.toList.flatMap escapedChar ++ '"' :: r)).map (fun p ↦ (.text p.1, p.2)) := by
    cases depth <;> rfl
  rw [stringChars_append, hvalue, string_flatMap, Option.map_some]

theorem value_of_isNumeralChar (hc : IsNumeralChar c) : value depth (c :: l) = number (c :: l) := by
  rw [value.eq_def]
  simp only [skipSpace_cons hc.isSpace_eq_false]
  split
  · rename_i h
    cases h
  all_goals
    first
    | (rename_i h; exact absurd (List.cons.inj h).1 (hc.ne (by decide)))
    | rfl

theorem value_list (depth : Nat) (l : List Char) :
    value (depth + 1) ('[' :: l) = (items (value depth) ']' l).map (fun (js, r) ↦ (.list js, r)) := rfl

theorem value_object (depth : Nat) (l : List Char) :
    value (depth + 1) ('\x7b' :: l) =
      (items (member (value depth)) '\x7d' l).map (fun (m, r) ↦ (.object m, r)) := rfl

inductive Legible : Nat → Json → Prop where
  | null {depth : Nat} : Legible depth .null
  | bool {depth : Nat} (b : Bool) : Legible depth (.bool b)
  | text {depth : Nat} (s : String) : Legible depth (.text s)
  | numeral {depth : Nat} {j : Json} (h : number (chars j) = some (j, [])) : Legible depth j
  | list {depth : Nat} {js : List Json} (h : ∀ j ∈ js, Legible depth j) :
    Legible (depth + 1) (.list js)
  | object {depth : Nat} {m : Members} (h : ∀ e ∈ m, Legible depth e.2) :
    Legible (depth + 1) (.object m)

theorem Legible.exists_chars_eq_cons (h : Legible depth j) :
    ∃ c l, chars j = c :: l ∧ isSpace c = false ∧ c ≠ ']' := by
  cases h with
  | null => exact ⟨'n', _, rfl, by decide, by decide⟩
  | bool b => cases b <;> exact ⟨_, _, rfl, by decide, by decide⟩
  | text s => exact ⟨'"', _, rfl, by decide, by decide⟩
  | numeral h =>
    obtain ⟨c, l, hchars⟩ : ∃ c l, chars j = c :: l := by
      refine List.exists_cons_of_ne_nil (fun hnil ↦ ?_)
      rw [hnil] at h
      cases h
    have hc := isNumeralChar_of_number h c (hchars ▸ List.mem_cons_self)
    exact ⟨c, l, hchars, hc.isSpace_eq_false, hc.ne (by decide)⟩
  | list h => exact ⟨'[', _, rfl, by decide, by decide⟩
  | object h => exact ⟨'\x7b', _, rfl, by decide, by decide⟩

theorem member_memberText {read : Reader Json} {e : String × Json}
    (h : read (chars e.2 ++ r) = some (e.2, r)) : member read (memberText e ++ r) = some (e, r) := by
  have hcolon : skipSpace (':' :: (chars e.2 ++ r)) = ':' :: (chars e.2 ++ r) :=
    skipSpace_cons (by decide)
  rw [memberText, List.append_assoc, stringChars_append, member, skipSpace_cons (by decide)]
  simp only [string_flatMap, List.cons_append, hcolon, h, Option.bind_eq_bind, Option.bind_some, pure]

theorem Legible.value_chars (h : Legible depth j) (hr : EndsNumeral r) :
    value depth (chars j ++ r) = some (j, r) := by
  induction h generalizing r with
  | @null depth => cases depth <;> rfl
  | @bool depth b => cases b <;> cases depth <;> rfl
  | text s => exact value_string _ s r
  | @numeral depth j h =>
    cases hchars : chars j with
    | nil => rw [hchars] at h; cases h
    | cons c l =>
      rw [hchars] at h
      rw [List.cons_append, value_of_isNumeralChar (isNumeralChar_of_number h c List.mem_cons_self)]
      exact number_append h hr
  | @list depth js h ih =>
    have hitems : ∀ j ∈ js, ReadsItem (value depth) chars ']' j := fun j hj ↦
      ⟨(h j hj).exists_chars_eq_cons, fun r hr ↦ ih j hj hr⟩
    rw [chars, List.cons_append, itemChars_eq, List.cons_append, List.append_assoc, value_list]
    exact congrArg (Option.map _) (items_separated (Or.inl rfl) hitems)
  | @object depth m h ih =>
    have hitems : ∀ e ∈ m, ReadsItem (member (value depth)) memberText '\x7d' e := fun e he ↦
      ⟨⟨'"', _, rfl, by decide, by decide⟩, fun r hr ↦ member_memberText (ih e he hr)⟩
    rw [chars, memberChars_eq, List.cons_append, List.cons_append, List.append_assoc, value_object]
    exact congrArg (Option.map _) (items_separated (Or.inr rfl) hitems)

/-- A legible value is read back from its text. -/
theorem Legible.read?_render (h : Legible maxDepth j) : read? (render j) = some j := by
  have hvalue : value maxDepth (chars j) = some (j, []) := by
    simpa using h.value_chars endsNumeral_nil
  simp only [read?, render, String.toList_ofList, readChars?, hvalue, Option.bind_eq_bind,
    Option.bind_some]
  rfl

def IsOneLine (l : List Char) : Prop := ∀ c ∈ l, 0x20 ≤ c.toNat

instance : DecidablePred IsOneLine := fun l ↦
  List.decidableBAll (fun c : Char ↦ 0x20 ≤ c.toNat) l

theorem IsOneLine.append (hl : IsOneLine l) (hr : IsOneLine r) : IsOneLine (l ++ r) :=
  List.forall_mem_append.2 ⟨hl, hr⟩

theorem IsOneLine.cons (hc : 0x20 ≤ c.toNat) (hl : IsOneLine l) : IsOneLine (c :: l) :=
  List.forall_mem_cons.2 ⟨hc, hl⟩

theorem isOneLine_flatMap {text : α → List Char} {as : List α}
    (h : ∀ a ∈ as, IsOneLine (text a)) : IsOneLine (as.flatMap text) := by
  intro c hc
  obtain ⟨a, ha, hc⟩ := List.mem_flatMap.1 hc
  exact h a ha c hc

theorem le_toNat_digitChar : ∀ n < 16, 0x20 ≤ (Nat.digitChar n).toNat := by decide

theorem isOneLine_escapedChar (c : Char) : IsOneLine (escapedChar c) := by
  by_cases hc : c.toNat < 0x20
  · have hhigh := le_toNat_digitChar (c.toNat / 16) (by omega)
    have hlow := le_toNat_digitChar (c.toNat % 16) (by omega)
    have hunit : IsOneLine
        ['\\', 'u', '0', '0', Nat.digitChar (c.toNat / 16), Nat.digitChar (c.toNat % 16)] := by
      simp [IsOneLine, hhigh, hlow]
    simp only [escapedChar, if_pos hc]
    split_ifs <;> first | decide | exact hunit
  · have hself : IsOneLine [c] := IsOneLine.cons (Nat.le_of_not_lt hc) (by decide)
    simp only [escapedChar, if_neg hc]
    split_ifs <;> first | decide | exact hself

theorem isOneLine_stringChars (s : String) : IsOneLine (stringChars s) :=
  (IsOneLine.cons (by decide) (isOneLine_flatMap (fun c _ ↦ isOneLine_escapedChar c))).append
    (by decide)

theorem isOneLine_separated {text : α → List Char} {as : List α}
    (h : ∀ a ∈ as, IsOneLine (text a)) : IsOneLine (separated text as) := by
  cases as with
  | nil => exact List.forall_mem_nil _
  | cons a as =>
    exact (h a List.mem_cons_self).append (isOneLine_flatMap (fun b hb ↦
      IsOneLine.cons (by decide) (h b (List.mem_cons_of_mem a hb))))

theorem Legible.isOneLine (h : Legible depth j) : IsOneLine (chars j) := by
  induction h with
  | null => decide
  | bool b => cases b <;> decide
  | text s => exact isOneLine_stringChars s
  | numeral h => exact fun c hc ↦ (isNumeralChar_of_number h c hc).toNat_le
  | list h ih =>
    rw [chars, itemChars_eq]
    exact (IsOneLine.cons (by decide) (isOneLine_separated ih)).append (by decide)
  | object h ih =>
    rw [chars, memberChars_eq]
    refine (IsOneLine.cons (by decide) (isOneLine_separated (fun e he ↦ ?_))).append (by decide)
    exact (isOneLine_stringChars e.1).append (IsOneLine.cons (by decide) (ih e he))

end FlowCorrelation.Json
