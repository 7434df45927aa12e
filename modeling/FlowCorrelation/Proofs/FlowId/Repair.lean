import FlowCorrelation.Proofs.FlowId.Grammar

namespace FlowCorrelation

namespace FlowId

variable {built l : List Char} {c : Char} {raw : String} {d : IdDefect}

structure Clean (built : List Char) : Prop where
  length_le : built.length ≤ maxIdLength
  idChars : ∀ c ∈ built, isIdChar c
  dashes : ¬ Text.occursIn ['-', '-'] built

theorem extend_cases (built : List Char) (c : Char) : extend built c = built ∨
    (isIdChar c ∧ ¬ (c = '-' ∧ built.getLast? = some '-') ∧ built.length ≠ maxIdLength ∧
      extend built c = built ++ [c]) := by
  unfold extend
  split
  · exact Or.inl rfl
  rename_i hc
  split
  · exact Or.inl rfl
  rename_i hdash
  split
  · exact Or.inl rfl
  rename_i hlength
  exact Or.inr ⟨by simpa using hc, hdash, hlength, rfl⟩

theorem not_occursIn_concat (h : ¬ Text.occursIn ['-', '-'] built)
    (hc : ¬ (c = '-' ∧ built.getLast? = some '-')) :
    ¬ Text.occursIn ['-', '-'] (built ++ [c]) := by
  rw [Text.occursIn_iff_isInfix] at h ⊢
  intro hinfix
  rcases List.infix_concat_iff.1 hinfix with hsuffix | hinfix
  · rcases List.suffix_concat_iff.1 hsuffix with hnil | ⟨front, hfront, hbuilt⟩
    · cases hnil
    · obtain ⟨rfl, hlast⟩ := List.append_inj' (show ['-'] ++ ['-'] = front ++ [c] from hfront) rfl
      obtain ⟨before, rfl⟩ := hbuilt
      exact hc ⟨(List.cons.inj hlast).1.symm, List.getLast?_concat⟩
  · exact h hinfix

theorem Clean.extend (h : Clean built) (c : Char) : Clean (extend built c) := by
  rcases extend_cases built c with heq | ⟨hc, hdash, hlength, heq⟩
  · rwa [heq]
  rw [heq]
  refine ⟨?_, fun b hb ↦ ?_, not_occursIn_concat h.dashes hdash⟩
  · rw [List.length_append, List.length_singleton]
    have hle := h.length_le
    omega
  · rcases List.mem_append.1 hb with hb | hb
    · exact h.idChars b hb
    · rwa [List.mem_singleton.1 hb]

theorem Clean.foldl_extend (h : Clean built) (l : List Char) :
    Clean (l.foldl FlowId.extend built) := by
  induction l generalizing built with
  | nil => exact h
  | cons c l ih => exact ih (h.extend c)

theorem foldl_extend_eq_nil_iff :
    l.foldl extend built = [] ↔ built = [] ∧ ∀ c ∈ l, ¬ isIdChar c := by
  induction l generalizing built with
  | nil => simp
  | cons c l ih =>
    have hstep : extend built c = [] ↔ built = [] ∧ ¬ isIdChar c := by
      rcases extend_cases built c with heq | ⟨hc, -, -, heq⟩
      · rw [heq]
        refine ⟨fun hnil ↦ ⟨hnil, fun hc ↦ ?_⟩, And.left⟩
        subst hnil
        simp [extend, hc, maxIdLength] at heq
      · simp [heq, hc]
    rw [List.foldl_cons, ih, hstep, and_assoc, List.forall_mem_cons]

theorem idDefect?_cleaned : idDefect? (cleaned raw) =
    if raw.toList.any isIdChar then none else some .empty := by
  have hnil : cleaned raw = "" ↔ ¬ raw.toList.any isIdChar := by
    rw [cleaned, String.ofList_eq_empty_iff, foldl_extend_eq_nil_iff]
    simp
  split
  · rename_i hany
    have hclean : Clean (raw.toList.foldl FlowId.extend []) :=
      Clean.foldl_extend ⟨by simp, by simp, by decide⟩ _
    refine idDefect?_eq_none_iff.2 ⟨fun hempty ↦ hnil.1 hempty hany, ?_⟩
    rw [cleaned, String.toList_ofList]
    exact ⟨hclean.length_le, hclean.idChars, hclean.dashes⟩
  · rename_i hnone
    simp [idDefect?, hnil.2 hnone]

theorem any_isIdChar_of_sound (h : idDefect? raw = none) : raw.toList.any isIdChar := by
  obtain ⟨hempty, -, hall, -⟩ := idDefect?_eq_none_iff.1 h
  have hne : raw.toList ≠ [] := fun hnil ↦ hempty (String.toList_eq_nil_iff.1 hnil)
  obtain ⟨c, hc⟩ := List.exists_mem_of_ne_nil _ hne
  exact List.any_eq_true.2 ⟨c, hc, hall c hc⟩

end FlowId

/-- A text from outside is turned down exactly if it has no character of ids, and then as empty. -/
theorem acceptId_outside_eq_error_iff {raw : String} {d : IdDefect} :
    acceptId raw .outside = .error d ↔ ¬ raw.toList.any isIdChar ∧ d = .empty := by
  cases hraw : FlowId.parse raw with
  | ok id =>
    have hany : raw.toList.any isIdChar := by
      have hsound := id.sound
      rw [FlowId.text_of_parse hraw] at hsound
      exact FlowId.any_isIdChar_of_sound hsound
    simp [acceptId, hraw, hany]
  | error d' =>
    have hrepair : acceptId raw .outside = .error d ↔ FlowId.parse (FlowId.cleaned raw) = .error d := by
      simp only [acceptId, hraw, FlowId.sanitize]
      cases FlowId.parse (FlowId.cleaned raw) with
      | ok id => exact ⟨nofun, nofun⟩
      | error d'' => exact ⟨fun h ↦ by cases h; rfl, fun h ↦ by cases h; rfl⟩
    rw [hrepair, FlowId.parse_eq_error_iff, FlowId.idDefect?_cleaned]
    split <;> simp [*, eq_comm]

end FlowCorrelation
