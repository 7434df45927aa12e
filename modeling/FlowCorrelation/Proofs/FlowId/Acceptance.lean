import FlowCorrelation.FlowId.Json
import FlowCorrelation.Proofs.FlowId.Canonical
import FlowCorrelation.Proofs.Json.RoundTrip

namespace FlowCorrelation

variable {raw : String} {c : Char} {id : FlowId}

/-- A letter, a digit, a dash or an underscore of ASCII. -/
def IsIdLetter (c : Char) : Prop :=
  'A' ≤ c ∧ c ≤ 'Z' ∨ 'a' ≤ c ∧ c ≤ 'z' ∨ '0' ≤ c ∧ c ≤ '9' ∨ c = '-' ∨ c = '_'

/-- The grammar of ids. -/
structure IsIdText (raw : String) : Prop where
  nonempty : raw ≠ ""
  short : raw.utf8ByteSize ≤ 100
  letters : ∀ c ∈ raw.toList, IsIdLetter c
  apart : ¬ ['-', '-'] <:+: raw.toList

theorem isIdChar_iff_isIdLetter : isIdChar c ↔ IsIdLetter c := isIdChar_iff

theorem idDefect?_eq_none_iff_isIdText : idDefect? raw = none ↔ IsIdText raw := by
  have hbytes (h : ∀ c ∈ raw.toList, isIdChar c) : raw.utf8ByteSize = raw.toList.length := by
    rw [← utf8ByteSize_of_isIdChar h, String.ofList_toList]
  rw [idDefect?_eq_none_iff]
  constructor
  · rintro ⟨hnonempty, hlength, hchars, hdashes⟩
    refine ⟨hnonempty, ?_, ?_, ?_⟩
    · rw [hbytes hchars]
      exact hlength
    · intro c hc
      exact isIdChar_iff_isIdLetter.1 (hchars c hc)
    · rw [← Text.occursIn_iff_isInfix]
      exact hdashes
  · intro h
    have hchars : ∀ c ∈ raw.toList, isIdChar c := by
      intro c hc
      exact isIdChar_iff_isIdLetter.2 (h.letters c hc)
    refine ⟨h.nonempty, ?_, hchars, ?_⟩
    · rw [← hbytes hchars]
      exact h.short
    · rw [Text.occursIn_iff_isInfix]
      exact h.apart

/-- Texts in the alphabet of ids have no marker but the double dash, however long they are. -/
theorem eq_dashes_of_findMarker {m : String} (h : ∀ c ∈ raw.toList, IsIdLetter c)
    (hm : findMarker raw = some m) : m = "--" := by
  have hchars : ∀ c ∈ raw.toList, isIdChar c := by
    intro c hc
    exact isIdChar_iff_isIdLetter.2 (h c hc)
  rw [findMarker] at hm
  have hmem := List.mem_of_find?_eq_some hm
  have hocc : Text.occursIn m.toList (Text.lower raw).toList := by simpa using List.find?_some hm
  exact eq_dashes_of_occursIn_lower hchars hmem hocc

namespace FlowId

theorem isIdText_text (id : FlowId) : IsIdText id.text := idDefect?_eq_none_iff_isIdText.1 id.sound

theorem exists_parse_iff_isIdText : (∃ id, parse raw = .ok id) ↔ IsIdText raw := by
  constructor
  · rintro ⟨id, hid⟩
    rw [← text_of_parse hid]
    exact id.isIdText_text
  · intro h
    exact ⟨⟨raw, idDefect?_eq_none_iff_isIdText.2 h⟩, parse_eq_ok_iff.2 rfl⟩

theorem ofJson?_eq_some_iff {j : Json} : ofJson? j = some id ↔ j = .text id.text := by
  constructor
  · intro h
    cases j with
    | text raw =>
      cases hparse : parse raw with
      | ok id' =>
        simp only [ofJson?, Json.asText?, Option.bind_some, hparse, Except.toOption,
          Option.some.injEq] at h
        rw [← h, text_of_parse hparse]
      | error d =>
        simp only [ofJson?, Json.asText?, Option.bind_some, hparse, Except.toOption] at h
        cases h
    | _ => cases h
  · rintro rfl
    simp only [ofJson?, Json.asText?, Option.bind_some, parse_text, Except.toOption]

theorem read?_eq_some_iff {text : String} :
    read? text = some id ↔ Json.read? text = some (.text id.text) := by
  simp only [read?, Option.bind_eq_some_iff, ofJson?_eq_some_iff, exists_eq_right]

theorem read?_render_eq_some_iff : read? (Json.render (.text raw)) = some id ↔ id.text = raw := by
  rw [read?_eq_some_iff, Json.Legible.read?_render (.text raw)]
  simp only [Option.some.injEq, Json.text.injEq]
  exact eq_comm

/-- A text is parsed exactly if it belongs to the grammar of ids, and so is a JSON text that spells
it; the id has that text. Of the markers none but the double dash stands in the alphabet of ids. -/
theorem accepts_iff_isIdText (raw : String) :
    ((∃ id, parse raw = .ok id) ↔ IsIdText raw) ∧
    (∀ id, parse raw = .ok id ↔ IsIdText raw ∧ id.text = raw) ∧
    ((∃ id, read? (Json.render (.text raw)) = some id) ↔ IsIdText raw) ∧
    (∀ text id, read? text = some id ↔
      ∃ s, Json.read? text = some (.text s) ∧ IsIdText s ∧ id.text = s) ∧
    ¬ ∃ m, findMarker raw = some m ∧ m ≠ "--" ∧ ∀ c ∈ raw.toList, IsIdLetter c := by
  refine ⟨exists_parse_iff_isIdText, ?_, ?_, ?_, ?_⟩
  · intro id
    rw [parse_eq_ok_iff]
    constructor
    · intro h
      exact ⟨h ▸ id.isIdText_text, h⟩
    · exact And.right
  · rw [← exists_parse_iff_isIdText]
    simp only [read?_render_eq_some_iff, parse_eq_ok_iff]
  · intro text id
    rw [read?_eq_some_iff]
    constructor
    · intro h
      exact ⟨id.text, h, id.isIdText_text, rfl⟩
    · rintro ⟨s, hs, -, rfl⟩
      exact hs
  · rintro ⟨m, hm, hne, hletters⟩
    exact hne (eq_dashes_of_findMarker hletters hm)

/-- The Kelvin sign is no letter of ids, although its small letter is one. -/
example : Text.lower "\u212A" = "k" ∧
    parse "\u212A" = .error (.illegalCharacter '\u212A') :=
  ⟨by decide +kernel, parse_eq_error_iff.2 (by decide +kernel)⟩

end FlowId

end FlowCorrelation
