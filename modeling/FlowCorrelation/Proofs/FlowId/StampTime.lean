import FlowCorrelation.Proofs.FlowId.Head

namespace FlowCorrelation

namespace Base36

theorem digitValue_digit {d : Nat} (h : d < 36) : digitValue (digit d) = d := by
  revert d
  decide

theorem toNat_digit {d : Nat} (h : d < 36) : (digit d).toNat = if d < 10 then 48 + d else 87 + d := by
  revert d
  decide

theorem exists_digit {c : Char} (h : isDigit c) : ∃ d < 36, digit d = c := by
  simp only [isDigit, Bool.or_eq_true, Bool.and_eq_true, decide_eq_true_eq] at h
  rcases h with ⟨hlow, hhigh⟩ | ⟨hlow, hhigh⟩
  · have hlow : 48 ≤ c.toNat := hlow
    have hhigh : c.toNat ≤ 57 := hhigh
    refine ⟨c.toNat - 48, by omega, Char.toNat_inj.1 ?_⟩
    rw [toNat_digit (by omega)]
    split <;> omega
  · have hlow : 97 ≤ c.toNat := hlow
    have hhigh : c.toNat ≤ 122 := hhigh
    refine ⟨c.toNat - 87, by omega, Char.toNat_inj.1 ?_⟩
    rw [toNat_digit (by omega)]
    split <;> omega

theorem digit_lt_digit_iff {d e : Nat} (hd : d < 36) (he : e < 36) : digit d < digit e ↔ d < e := by
  have hlt : digit d < digit e ↔ (digit d).toNat < (digit e).toNat := Iff.rfl
  rw [hlt, toNat_digit hd, toNat_digit he]
  split <;> split <;> omega

def readAfter (n : Nat) (l : List Char) : Nat := l.foldl (fun n c ↦ 36 * n + digitValue c) n

theorem readAfter_concat (n : Nat) (l : List Char) (c : Char) :
    readAfter n (l ++ [c]) = 36 * readAfter n l + digitValue c := List.foldl_concat _ _ _ _

theorem read?_eq_some_iff {l : List Char} {n : Nat} :
    read? l = some n ↔ l ≠ [] ∧ (∀ c ∈ l, isDigit c) ∧ readAfter 0 l = n := by
  unfold read?
  split
  · rename_i h
    refine iff_of_false nofun (fun ⟨hne, hall, _⟩ ↦ ?_)
    rcases h with h | h
    · exact hne (List.isEmpty_iff.1 h)
    · exact h (List.all_eq_true.2 hall)
  · rename_i h
    rw [not_or, not_not, List.isEmpty_iff, List.all_eq_true] at h
    rw [Option.some.injEq, and_iff_right h.1, and_iff_right h.2]
    rfl

theorem readAfter_digits (n : Nat) : readAfter 0 (digits n) = n := by
  induction n using digits.induct with
  | case1 =>
    rw [digits, if_pos rfl]
    rfl
  | case2 n hn ih =>
    rw [digits, if_neg hn, readAfter_concat, ih, digitValue_digit (Nat.mod_lt n (by decide))]
    omega

theorem readAfter_render (n : Nat) : readAfter 0 (render n) = n := by
  unfold render
  split
  · rename_i hn
    rw [hn]
    rfl
  · exact readAfter_digits n

theorem read?_render (n : Nat) : read? (render n) = some n :=
  read?_eq_some_iff.2 ⟨render_ne_nil n, fun _ ↦ isDigit_of_mem_render, readAfter_render n⟩

theorem render_injective : Function.Injective render := by
  intro m n h
  have hread := read?_render m
  rw [h, read?_render n] at hread
  exact (Option.some.inj hread).symm

theorem digits_readAfter {l : List Char} (hl : ∀ c ∈ l, isDigit c) (hfirst : l.head? ≠ some '0') :
    digits (readAfter 0 l) = l := by
  induction l using List.reverseRecOn with
  | nil => simp [readAfter, digits]
  | append_singleton l c ih =>
    obtain ⟨d, hd, rfl⟩ := exists_digit (hl c (by simp))
    have hrest : digits (readAfter 0 l) = l := by
      apply ih
      · intro c hc
        exact hl c (List.mem_append_left _ hc)
      · intro hzero
        apply hfirst
        rw [List.head?_append, hzero]
        rfl
    have hpos : 36 * readAfter 0 l + d ≠ 0 := by
      intro hzero
      -- nothing but a zero is read as zero, and it would come first
      obtain rfl : l = [] := by
        rw [← hrest, show readAfter 0 l = 0 by omega, digits, if_pos rfl]
      obtain rfl : d = 0 := by omega
      exact hfirst rfl
    rw [readAfter_concat, digitValue_digit hd, digits, if_neg hpos,
      show (36 * readAfter 0 l + d) / 36 = readAfter 0 l by omega,
      show (36 * readAfter 0 l + d) % 36 = d by omega, hrest]

/-- Whether a text is how a number is written: by one or more digits, of which the first is no zero unless
it stands alone, and which are read as the number. -/
structure IsNumeral (l : List Char) (n : Nat) : Prop where
  ne_nil : l ≠ []
  isDigit_of_mem : ∀ c ∈ l, isDigit c
  eq_of_zero_first : l.head? = some '0' → l = ['0']
  read : read? l = some n

theorem head?_digits (n : Nat) : (digits n).head? ≠ some '0' := by
  induction n using digits.induct with
  | case1 => simp [digits]
  | case2 n hn ih =>
    rw [digits, if_neg hn]
    by_cases hrest : n / 36 = 0
    · have hdigit : ¬ (digit (n % 36)).toNat = 48 := by
        rw [toNat_digit (Nat.mod_lt n (by decide))]
        split <;> omega
      rw [hrest, digits, if_pos rfl]
      intro hzero
      exact hdigit (congrArg Char.toNat (Option.some.inj hzero))
    · obtain ⟨c, l, hl⟩ := List.exists_cons_of_ne_nil
        (show digits (n / 36) ≠ [] by rw [digits, if_neg hrest]; simp)
      rw [hl] at ih ⊢
      exact ih

theorem isNumeral_render (n : Nat) : IsNumeral (render n) n where
  ne_nil := render_ne_nil n
  isDigit_of_mem _ := isDigit_of_mem_render
  eq_of_zero_first := by
    unfold render
    split
    · intro _
      rfl
    · intro hzero
      exact absurd hzero (head?_digits n)
  read := read?_render n

theorem isNumeral_iff {l : List Char} {n : Nat} : IsNumeral l n ↔ l = render n := by
  constructor
  · intro h
    obtain ⟨-, hdigits, hread⟩ := read?_eq_some_iff.1 h.read
    by_cases hzero : l.head? = some '0'
    · obtain rfl := h.eq_of_zero_first hzero
      rw [← hread]
      rfl
    · have hl := digits_readAfter hdigits hzero
      rw [hread] at hl
      rw [render, if_neg, hl]
      rintro rfl
      apply h.ne_nil
      rw [← hl, digits, if_pos rfl]
  · rintro rfl
    exact isNumeral_render n

/-- What is read from equally long texts is ordered by what came before them, and then as the texts are. -/
theorem readAfter_lt_iff {l l' : List Char} (hlength : l.length = l'.length) (hl : ∀ c ∈ l, isDigit c)
    (hl' : ∀ c ∈ l', isDigit c) {m n : Nat} :
    readAfter m l < readAfter n l' ↔ m < n ∨ m = n ∧ l < l' := by
  induction l generalizing l' m n with
  | nil =>
    obtain rfl := List.length_eq_zero_iff.1 hlength.symm
    simp [readAfter]
  | cons c l ih =>
    obtain ⟨c', l', rfl⟩ := List.exists_cons_of_length_eq_add_one hlength.symm
    rw [List.forall_mem_cons] at hl hl'
    obtain ⟨d, hd, rfl⟩ := exists_digit hl.1
    obtain ⟨e, he, rfl⟩ := exists_digit hl'.1
    have hrest := ih (Nat.succ.inj hlength) hl.2 hl'.2 (m := 36 * m + d) (n := 36 * n + e)
    have heq : digit d = digit e ↔ d = e := by
      refine ⟨fun h ↦ ?_, congrArg digit⟩
      rw [← digitValue_digit hd, h, digitValue_digit he]
    rw [List.cons_lt_cons_iff, digit_lt_digit_iff hd he, heq, readAfter, readAfter, List.foldl_cons,
      List.foldl_cons, digitValue_digit hd, digitValue_digit he]
    refine hrest.trans ?_
    by_cases h : l < l'
    · simp only [h, and_true]
      omega
    · simp only [h, and_false, or_false]
      omega

theorem render_lt_render_iff {m n : Nat} (hlength : (render m).length = (render n).length) :
    render m < render n ↔ m < n := by
  have h := readAfter_lt_iff hlength (fun _ ↦ isDigit_of_mem_render) (fun _ ↦ isDigit_of_mem_render)
    (m := 0) (n := 0)
  rw [readAfter_render, readAfter_render] at h
  simpa using h.symm

end Base36

variable {head suffix : String} {millis : Nat} {id : FlowId}

theorem stampParts?_of_compose (hs : IsSuffix suffix) (h : FlowId.compose head millis suffix = .ok id) :
    stampParts? id.text.toList = some (head.toList, Base36.render millis, suffix.toList) := by
  have htext : id.text = stampText head millis suffix := FlowId.text_of_parse h
  rw [htext, toList_stampText]
  exact stampParts?_append head.toList (Base36.dash_not_mem_render millis) hs.dash_not_mem

/-- A number has one numeral in base 36, which reads back as the number and no other number has, and which
for 64 bits has no more than thirteen digits. Numerals of one length are ordered as their numbers are. A
stamped id is cut at its last two dashes into the head, the numeral and the suffix that it was composed of,
and it can be composed of no others. -/
theorem stamped_time_decodes_and_sorts :
    (∀ l n, Base36.IsNumeral l n ↔ l = Base36.render n) ∧ Function.Injective Base36.render ∧
      (∀ n < 2 ^ 64, (Base36.render n).length ≤ 13) ∧
      (∀ m n, (Base36.render m).length = (Base36.render n).length →
        (String.ofList (Base36.render m) < String.ofList (Base36.render n) ↔ m < n)) ∧
      ∀ head millis suffix id, IsSuffix suffix → FlowId.compose head millis suffix = .ok id →
        stampParts? id.text.toList = some (head.toList, Base36.render millis, suffix.toList) ∧
          ∀ head' millis' suffix', IsSuffix suffix' → FlowId.compose head' millis' suffix' = .ok id →
            head' = head ∧ millis' = millis ∧ suffix' = suffix := by
  refine ⟨fun l n ↦ Base36.isNumeral_iff, Base36.render_injective, fun n hn ↦ ?_,
    fun m n hlength ↦ ?_, fun head millis suffix id hs hid ↦ ⟨stampParts?_of_compose hs hid, ?_⟩⟩
  · exact (Base36.length_render_le_iff (by decide)).2 (Nat.lt_trans hn (by decide))
  · have hlt : String.ofList (Base36.render m) < String.ofList (Base36.render n) ↔
        (String.ofList (Base36.render m)).toList < (String.ofList (Base36.render n)).toList := Iff.rfl
    rw [hlt, String.toList_ofList, String.toList_ofList]
    exact Base36.render_lt_render_iff hlength
  · intro head' millis' suffix' hs' hid'
    have hparts := (stampParts?_of_compose hs' hid').symm.trans (stampParts?_of_compose hs hid)
    simp only [Option.some.injEq, Prod.mk.injEq] at hparts
    obtain ⟨hhead, hmillis, hsuffix⟩ := hparts
    exact ⟨String.toList_inj.1 hhead, Base36.render_injective hmillis, String.toList_inj.1 hsuffix⟩

/-- A head with a dash, stamped in the first millisecond of a year and in the next one. -/
theorem stamped_time_under_dashed_head :
    let x : FlowId := ⟨"my-shop-mjuohs00-0badf00d", by decide +kernel⟩
    let time := Base36.render 1767225600000
    let next := Base36.render 1767225600001
    FlowId.compose "my-shop" 1767225600000 "0badf00d" = .ok x ∧ 1767225600001 < 2 ^ 64 ∧
      next.length ≤ 13 ∧ time.length = next.length ∧ String.ofList time < String.ofList next ∧
      stampParts? x.text.toList = some ("my-shop".toList, "mjuohs00".toList, "0badf00d".toList) := by
  intro x time next
  obtain ⟨-, -, hlength, hsorts, hparts⟩ := stamped_time_decodes_and_sorts
  have hx : FlowId.compose "my-shop" 1767225600000 "0badf00d" = .ok x := by
    have htext : "my-shop" ++ "-" ++ String.ofList time ++ "-" ++ "0badf00d" = x.text := by
      decide +kernel
    exact (congrArg FlowId.parse htext).trans (FlowId.parse_text x)
  have hsame : time.length = next.length := by decide +kernel
  have htime : time = "mjuohs00".toList := by decide +kernel
  refine ⟨hx, by decide, hlength _ (by decide), hsame, (hsorts _ _ hsame).2 (by decide), ?_⟩
  rw [← htime]
  exact (hparts _ _ _ x (by decide +kernel) hx).1

end FlowCorrelation
