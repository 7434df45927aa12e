import FlowCorrelation.Proofs.FlowId.Repair
import Mathlib.Data.List.Destutter

namespace FlowCorrelation

abbrev Apart (a b : Char) : Prop := ¬ (a = '-' ∧ b = '-')

theorem not_occursIn_dashes_iff {l : List Char} :
    ¬ Text.occursIn ['-', '-'] l ↔ l.IsChain Apart := by
  induction l with
  | nil => simp [Text.occursIn]
  | cons a l ih =>
    have hcons : Text.occursIn ['-', '-'] (a :: l) ↔
        ['-', '-'].isPrefixOf (a :: l) ∨ Text.occursIn ['-', '-'] l := by
      rw [Text.occursIn, Bool.or_eq_true]
    rw [hcons, not_or, ih]
    cases l with
    | nil => simp
    | cons b l =>
      have hstart : ['-', '-'].isPrefixOf (a :: b :: l) ↔ a = '-' ∧ b = '-' := by
        simp [List.isPrefixOf, beq_iff_eq, @eq_comm _ '-']
      rw [hstart, List.isChain_cons_cons]

def collapseDashes (l : List Char) : List Char := l.destutter Apart

theorem destutter'_concat {α : Type} {R : α → α → Prop} [DecidableRel R] (a c : α) (l : List α) :
    (l ++ [c]).destutter' R a =
      if (l.destutter' R a).getLast?.all (R · c) then l.destutter' R a ++ [c]
      else l.destutter' R a := by
  induction l generalizing a with
  | nil =>
    by_cases h : R a c <;> simp [h]
  | cons b l ih =>
    by_cases h : R a b
    · obtain ⟨d, kept, hkept⟩ := List.exists_cons_of_ne_nil (l.destutter'_ne_nil R (a := b))
      rw [List.cons_append, List.destutter'_cons_pos _ h, List.destutter'_cons_pos _ h, ih, hkept,
        List.getLast?_cons_cons]
      split <;> rfl
    · rw [List.cons_append, List.destutter'_cons_neg _ h, List.destutter'_cons_neg _ h, ih]

theorem destutter_concat {α : Type} {R : α → α → Prop} [DecidableRel R] (l : List α) (c : α) :
    (l ++ [c]).destutter R =
      if (l.destutter R).getLast?.all (R · c) then l.destutter R ++ [c] else l.destutter R := by
  cases l with
  | nil => simp
  | cons a l => exact destutter'_concat a c l

namespace FlowId

/-- The characters of a text that may stand in an id, with every run of dashes made one dash, up to
the length of the longest id. -/
def canonical (raw : String) : String :=
  String.ofList ((collapseDashes (raw.toList.filter isIdChar)).take maxIdLength)

variable {l : List Char} {c : Char} {raw : String} {id : FlowId} {d : IdDefect}

/-- A character more changes what is kept of the characters before as it changes the id that is made
of them. -/
theorem extend_take_collapseDashes (l : List Char) (hc : isIdChar c) :
    extend ((collapseDashes l).take maxIdLength) c =
      (collapseDashes (l ++ [c])).take maxIdLength := by
  rw [collapseDashes, collapseDashes, destutter_concat]
  generalize l.destutter Apart = kept
  have hfirst : (if kept.getLast?.all (Apart · c) then kept ++ [c] else kept) =
      if c = '-' ∧ kept.getLast? = some '-' then kept else kept ++ [c] := by
    cases hlast : kept.getLast? with
    | none => simp
    | some b => by_cases hb : b = '-' <;> by_cases hd : c = '-' <;> simp [hb, hd]
  rw [hfirst, extend]
  by_cases hlong : maxIdLength ≤ kept.length
  · -- What comes after a hundred characters is lost.
    have hfull : (kept.take maxIdLength).length = maxIdLength := List.length_take_of_le hlong
    have hmore : (kept ++ [c]).take maxIdLength = kept.take maxIdLength :=
      List.take_append_of_le_length hlong
    simp only [hc, hfull, Bool.not_true, Bool.false_eq_true, if_true, ite_self]
    split <;> simp [hmore]
  · have hshort : kept.length ≠ maxIdLength := fun h ↦ hlong h.ge
    have hroom : (kept ++ [c]).length ≤ maxIdLength := by
      rw [List.length_append, List.length_singleton]
      omega
    rw [List.take_of_length_le (by omega : kept.length ≤ maxIdLength)]
    simp only [hc, hshort, Bool.not_true, Bool.false_eq_true, if_false]
    split
    · rw [List.take_of_length_le (by omega)]
    · rw [List.take_of_length_le hroom]

theorem foldl_extend_eq (l before : List Char) :
    l.foldl extend ((collapseDashes before).take maxIdLength) =
      (collapseDashes (before ++ l.filter isIdChar)).take maxIdLength := by
  induction l generalizing before with
  | nil => simp
  | cons c l ih =>
    rw [List.foldl_cons]
    by_cases hc : isIdChar c
    · rw [extend_take_collapseDashes before hc, ih, List.filter_cons_of_pos hc, List.append_assoc,
        List.singleton_append]
    · have hskip : extend ((collapseDashes before).take maxIdLength) c =
          (collapseDashes before).take maxIdLength := by simp [extend, hc]
      rw [hskip, ih, List.filter_cons_of_neg hc]

theorem cleaned_eq_canonical (raw : String) : cleaned raw = canonical raw :=
  congrArg String.ofList (foldl_extend_eq raw.toList [])

theorem canonical_text (id : FlowId) : canonical id.text = id.text := by
  obtain ⟨-, hlength, hall, hdashes⟩ := idDefect?_eq_none_iff.1 id.sound
  rw [canonical, List.filter_eq_self.2 hall, collapseDashes,
    List.destutter_of_isChain _ _ (not_occursIn_dashes_iff.1 hdashes),
    List.take_of_length_le hlength, String.ofList_toList]

theorem idDefect?_canonical : idDefect? (canonical raw) =
    if raw.toList.any isIdChar then none else some .empty := by
  rw [← cleaned_eq_canonical]
  exact idDefect?_cleaned

theorem parse_eq_ok_iff : parse raw = .ok id ↔ id.text = raw := by
  refine ⟨text_of_parse, fun h ↦ ?_⟩
  rw [← h]
  exact parse_text id

theorem sanitize_eq_ok_iff : sanitize raw = .ok id ↔ id.text = canonical raw := by
  rw [sanitize, cleaned_eq_canonical, parse_eq_ok_iff]

theorem sanitize_eq_error_iff :
    sanitize raw = .error d ↔ ¬ raw.toList.any isIdChar ∧ d = .empty := by
  rw [sanitize, cleaned_eq_canonical, parse_eq_error_iff, idDefect?_canonical]
  split <;> simp [*, eq_comm]

theorem exists_sanitize_iff : (∃ id, sanitize raw = .ok id) ↔ raw.toList.any isIdChar := by
  cases h : sanitize raw with
  | ok id =>
    have hnone : ¬ sanitize raw = .error .empty := by simp [h]
    rw [sanitize_eq_error_iff] at hnone
    simpa using hnone
  | error d => simpa using (sanitize_eq_error_iff.1 h).1

theorem sanitize_text (id : FlowId) : sanitize id.text = .ok id :=
  sanitize_eq_ok_iff.2 (canonical_text id).symm

end FlowId

/-- A text from outside is taken as its canonical form, and as repaired exactly if it has a
defect. -/
theorem acceptId_outside_eq_ok_iff {raw : String} {a : AcceptedId} :
    acceptId raw .outside = .ok a ↔
      a.id.text = FlowId.canonical raw ∧ a.repaired = idDefect? raw := by
  obtain ⟨id, repaired⟩ := a
  cases hraw : FlowId.parse raw with
  | ok id' =>
    have htext := FlowId.text_of_parse hraw
    have hsound : idDefect? raw = none := htext ▸ id'.sound
    have hcanonical : FlowId.canonical raw = id'.text := by rw [← htext, FlowId.canonical_text]
    simp only [acceptId, hraw, hsound, hcanonical, Except.ok.injEq, AcceptedId.mk.injEq,
      @eq_comm _ none]
    exact and_congr_left' ⟨fun h ↦ h ▸ rfl, fun h ↦ (FlowId.ext h).symm⟩
  | error d =>
    have hdefect := FlowId.parse_eq_error_iff.1 hraw
    simp only [acceptId, hraw, hdefect, ← FlowId.sanitize_eq_ok_iff]
    cases FlowId.sanitize raw with
    | ok id' =>
      constructor
      · intro h
        cases h
        exact ⟨rfl, rfl⟩
      · rintro ⟨hid, hrepaired⟩
        cases hid
        rw [hrepaired]
        rfl
    | error d' =>
      constructor
      · intro h
        cases h
      · rintro ⟨hid, -⟩
        cases hid

/-- A text can be repaired exactly if it has a character of ids, and is empty otherwise; its repair
is its canonical form, which is an id and its own repair. So from outside every such text is taken,
and those that are ids already are taken as they stand. -/
theorem FlowId.sanitize_total_canonical_stable (raw : String) :
    ((∃ id, sanitize raw = .ok id) ↔ ∃ c ∈ raw.toList, isIdChar c) ∧
    (∀ d, sanitize raw = .error d ↔ (¬ ∃ c ∈ raw.toList, isIdChar c) ∧ d = .empty) ∧
    (∀ id, sanitize raw = .ok id → id.text = canonical raw ∧ parse id.text = .ok id ∧
      sanitize id.text = .ok id) ∧
    ((∃ d, acceptId raw .outside = .error d) ↔ ¬ ∃ c ∈ raw.toList, isIdChar c) ∧
    (∀ a, acceptId raw .outside = .ok a → parse a.id.text = .ok a.id) ∧
    ((∃ a, acceptId raw .outside = .ok a ∧ a.id.text = raw ∧ a.repaired = none) ↔
      ∃ id, parse raw = .ok id) := by
  have hany : (∃ c ∈ raw.toList, isIdChar c) ↔ raw.toList.any isIdChar := by simp
  rw [hany]
  refine ⟨exists_sanitize_iff, fun d ↦ sanitize_eq_error_iff, fun id h ↦ ?_, ?_,
    fun a _ ↦ parse_text a.id, ?_⟩
  · exact ⟨sanitize_eq_ok_iff.1 h, parse_text id, sanitize_text id⟩
  · simp [acceptId_outside_eq_error_iff]
  · constructor
    · rintro ⟨a, -, htext, -⟩
      exact ⟨a.id, parse_eq_ok_iff.2 htext⟩
    · rintro ⟨id, hid⟩
      have htext := text_of_parse hid
      refine ⟨⟨id, none⟩, acceptId_outside_eq_ok_iff.2 ⟨?_, ?_⟩, htext, rfl⟩
      · rw [← htext, canonical_text]
      · rw [← htext, id.sound]

end FlowCorrelation
