namespace FlowCorrelation.Text

variable {α : Type}

def occursIn (p : List Char) : List Char → Bool
  | [] => p.isEmpty
  | c :: r => p.isPrefixOf (c :: r) || occursIn p r

/-- The parts of a list between the elements that satisfy `p`; there is one more part than there
are such elements. -/
def splitAll (p : α → Bool) : List α → List (List α)
  | [] => [[]]
  | a :: r =>
    match splitAll p r with
    | [] => [[a]]
    | part :: parts => if p a then [] :: part :: parts else (a :: part) :: parts

theorem splitAll_ne_nil (p : α → Bool) (l : List α) : splitAll p l ≠ [] := by
  cases l with
  | nil => simp [splitAll]
  | cons a r => simp only [splitAll]; split <;> (try split) <;> simp

def splitFirst [BEq α] (sep : α) : List α → Option (List α × List α)
  | [] => none
  | a :: r =>
    if a == sep then some ([], r)
    else (splitFirst sep r).map (fun (before, after) ↦ (a :: before, after))

def splitLast [BEq α] (sep : α) (l : List α) : Option (List α × List α) :=
  (splitFirst sep l.reverse).map (fun (after, before) ↦ (before.reverse, after.reverse))

theorem splitFirst_append [BEq α] [LawfulBEq α] {sep : α} {before : List α} (h : sep ∉ before)
    (after : List α) : splitFirst sep (before ++ sep :: after) = some (before, after) := by
  induction before with
  | nil => simp [splitFirst]
  | cons a r ih =>
    obtain ⟨ha, hr⟩ := not_or.1 (fun hor ↦ h (List.mem_cons.2 hor))
    have hne : (a == sep) = false := beq_false_of_ne (Ne.symm ha)
    simp [splitFirst, hne, ih hr]

theorem splitLast_append [BEq α] [LawfulBEq α] {sep : α} (before : List α) {after : List α}
    (h : sep ∉ after) : splitLast sep (before ++ sep :: after) = some (before, after) := by
  have hrev : (before ++ sep :: after).reverse = after.reverse ++ sep :: before.reverse := by simp
  rw [splitLast, hrev, splitFirst_append (by simpa using h)]
  simp

theorem splitFirst_eq_some_iff [BEq α] [LawfulBEq α] {sep : α} {l before after : List α} :
    splitFirst sep l = some (before, after) ↔ l = before ++ sep :: after ∧ sep ∉ before := by
  refine ⟨fun h ↦ ?_, fun ⟨hl, hsep⟩ ↦ hl ▸ splitFirst_append hsep after⟩
  induction l generalizing before with
  | nil => simp [splitFirst] at h
  | cons a r ih =>
    simp only [splitFirst] at h
    split at h
    · rename_i ha
      cases h
      exact ⟨by rw [eq_of_beq ha, List.nil_append], List.not_mem_nil⟩
    · rename_i ha
      obtain ⟨⟨before', after'⟩, hcut, hparts⟩ := Option.map_eq_some_iff.1 h
      cases hparts
      obtain ⟨hr, hsep⟩ := ih hcut
      refine ⟨by rw [hr, List.cons_append], fun hmem ↦ ?_⟩
      rcases List.mem_cons.1 hmem with rfl | hmem
      · exact ha (beq_self_eq_true sep)
      · exact hsep hmem

theorem splitFirst_eq_none_iff [BEq α] [LawfulBEq α] {sep : α} {l : List α} :
    splitFirst sep l = none ↔ sep ∉ l := by
  refine ⟨fun h hmem ↦ ?_, fun h ↦ Option.eq_none_iff_forall_ne_some.2 ?_⟩
  · obtain ⟨before, after, rfl, hsep⟩ := List.eq_append_cons_of_mem hmem
    rw [splitFirst_append hsep] at h
    cases h
  · rintro ⟨before, after⟩ hcut
    obtain ⟨rfl, -⟩ := splitFirst_eq_some_iff.1 hcut
    exact h (List.mem_append_right before List.mem_cons_self)

theorem splitLast_eq_some_iff [BEq α] [LawfulBEq α] {sep : α} {l before after : List α} :
    splitLast sep l = some (before, after) ↔ l = before ++ sep :: after ∧ sep ∉ after := by
  refine ⟨fun h ↦ ?_, fun ⟨hl, hsep⟩ ↦ hl ▸ splitLast_append before hsep⟩
  obtain ⟨⟨after', before'⟩, hcut, hparts⟩ := Option.map_eq_some_iff.1 h
  cases hparts
  obtain ⟨hl, hsep⟩ := splitFirst_eq_some_iff.1 hcut
  refine ⟨?_, by simpa using hsep⟩
  rw [← List.reverse_reverse l, hl]
  simp

def joinWith (sep : List α) : List (List α) → List α
  | [] => []
  | [part] => part
  | part :: parts => part ++ sep ++ joinWith sep parts

theorem joinWith_cons (sep part : List α) {parts : List (List α)} (h : parts ≠ []) :
    joinWith sep (part :: parts) = part ++ sep ++ joinWith sep parts := by
  cases parts with
  | nil => exact absurd rfl h
  | cons _ _ => rfl

theorem splitAll_cons_of_pos {p : α → Bool} {a : α} (ha : p a) (l : List α) :
    splitAll p (a :: l) = [] :: splitAll p l := by
  cases h : splitAll p l with
  | nil => exact absurd h (splitAll_ne_nil p l)
  | cons part parts => simp [splitAll, h, ha]

theorem splitAll_cons_of_neg {p : α → Bool} {a : α} (ha : ¬ p a) {l part : List α}
    {parts : List (List α)} (h : splitAll p l = part :: parts) :
    splitAll p (a :: l) = (a :: part) :: parts := by
  simp [splitAll, h, ha]

theorem splitAll_of_none {p : α → Bool} {part : List α} (h : ∀ a ∈ part, ¬ p a) :
    splitAll p part = [part] := by
  induction part with
  | nil => rfl
  | cons a l ih =>
    exact splitAll_cons_of_neg (h a List.mem_cons_self)
      (ih (fun b hb ↦ h b (List.mem_cons_of_mem a hb)))

theorem splitAll_append {p : α → Bool} {part : List α} (h : ∀ a ∈ part, ¬ p a) {sep : α}
    (hsep : p sep) (l : List α) : splitAll p (part ++ sep :: l) = part :: splitAll p l := by
  induction part with
  | nil => exact splitAll_cons_of_pos hsep l
  | cons a part ih =>
    exact splitAll_cons_of_neg (h a List.mem_cons_self)
      (ih (fun b hb ↦ h b (List.mem_cons_of_mem a hb)))

theorem not_of_mem_splitAll {p : α → Bool} {l part : List α} (h : part ∈ splitAll p l) {a : α}
    (ha : a ∈ part) : ¬ p a ∧ a ∈ l := by
  induction l generalizing part with
  | nil => simp_all [splitAll]
  | cons b l ih =>
    obtain ⟨first, parts, hparts⟩ := List.exists_cons_of_ne_nil (splitAll_ne_nil p l)
    by_cases hb : p b
    · rw [splitAll_cons_of_pos hb] at h
      rcases List.mem_cons.1 h with rfl | h
      · cases ha
      · exact (ih h ha).imp_right (List.mem_cons_of_mem b)
    · rw [splitAll_cons_of_neg hb hparts] at h
      rw [hparts] at ih
      rcases List.mem_cons.1 h with rfl | h
      · rcases List.mem_cons.1 ha with rfl | ha
        · exact ⟨hb, List.mem_cons_self⟩
        · exact (ih List.mem_cons_self ha).imp_right (List.mem_cons_of_mem b)
      · exact (ih (List.mem_cons_of_mem first h) ha).imp_right (List.mem_cons_of_mem b)

/-- A text is its parts with the separator between them. -/
theorem joinWith_splitAll [DecidableEq α] (sep : α) (l : List α) :
    joinWith [sep] (splitAll (· = sep) l) = l := by
  induction l with
  | nil => rfl
  | cons a l ih =>
    obtain ⟨part, parts, hparts⟩ := List.exists_cons_of_ne_nil (splitAll_ne_nil (· = sep) l)
    by_cases ha : a = sep
    · have hcut : splitAll (· = sep) (a :: l) = [] :: splitAll (· = sep) l :=
        splitAll_cons_of_pos (by simpa using ha) l
      rw [hcut, joinWith_cons _ _ (splitAll_ne_nil _ l), ih, ha]
      rfl
    · have hcut : splitAll (· = sep) (a :: l) = (a :: part) :: parts :=
        splitAll_cons_of_neg (by simpa using ha) hparts
      rw [hparts] at ih
      rw [hcut]
      cases parts with
      | nil => exact congrArg (a :: ·) ih
      | cons _ _ =>
        rw [joinWith_cons _ _ (List.cons_ne_nil _ _)] at ih ⊢
        exact congrArg (a :: ·) ih

theorem splitAll_joinWith [DecidableEq α] {sep : α} {parts : List (List α)} (hne : parts ≠ [])
    (h : ∀ part ∈ parts, sep ∉ part) : splitAll (· = sep) (joinWith [sep] parts) = parts := by
  induction parts with
  | nil => exact absurd rfl hne
  | cons part parts ih =>
    have hpart : ∀ a ∈ part, ¬ decide (a = sep) := fun a ha heq ↦
      h part List.mem_cons_self (of_decide_eq_true heq ▸ ha)
    cases parts with
    | nil => exact splitAll_of_none hpart
    | cons q qs =>
      have hrest := ih (List.cons_ne_nil q qs) (fun r hr ↦ h r (List.mem_cons_of_mem part hr))
      have hjoin : joinWith [sep] (part :: q :: qs) = part ++ sep :: joinWith [sep] (q :: qs) := by
        simp [joinWith_cons]
      rw [hjoin, splitAll_append hpart (by simp), hrest]

end FlowCorrelation.Text
