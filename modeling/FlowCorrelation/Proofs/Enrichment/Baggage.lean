import FlowCorrelation.Enrichment.Baggage
import Mathlib.Data.List.DropRight
import Mathlib.Data.List.TakeWhile
import Mathlib.Data.Set.List

namespace FlowCorrelation

namespace Text

theorem trimLeft_append_cons {c : Char} (hc : isBlank c = false) (l r : List Char) :
    trimLeft (l ++ c :: r) = trimLeft l ++ c :: r := by
  have hstop : (c :: r).dropWhile isBlank = c :: r := List.dropWhile_cons_of_neg (by simp [hc])
  rw [trimLeft, List.dropWhile_append, hstop]
  cases h : l.dropWhile isBlank <;> simp [trimLeft, h]

theorem trimRight_append_cons {c : Char} (hc : isBlank c = false) (l r : List Char) :
    trimRight (l ++ c :: r) = l ++ c :: trimRight r := by
  have hrev : (l ++ c :: r).reverse = r.reverse ++ c :: l.reverse := by simp
  have htrim := trimLeft_append_cons hc r.reverse l.reverse
  rw [trimLeft, trimLeft] at htrim
  rw [trimRight, hrev, htrim, trimRight]
  simp

theorem trim_append_cons {c : Char} (hc : isBlank c = false) (l r : List Char) :
    trim (l ++ c :: r) = trimLeft l ++ c :: trimRight r := by
  rw [trim, trimLeft_append_cons hc, trimRight_append_cons hc]

theorem trimLeft_of_blank {l : List Char} (h : ∀ c ∈ l, isBlank c) : trimLeft l = [] :=
  List.dropWhile_eq_nil_iff.2 h

theorem trimRight_of_blank {l : List Char} (h : ∀ c ∈ l, isBlank c) : trimRight l = [] :=
  List.rdropWhile_eq_nil_iff.2 h

theorem trim_trimLeft (l : List Char) : trim (trimLeft l) = trim l :=
  congrArg trimRight (List.dropWhile_idempotent isBlank l)

theorem trim_trimRight (l : List Char) : trim (trimRight l) = trim l := by
  -- A character that is not blank keeps what the two sides lose apart.
  by_cases hall : ∀ c ∈ l, isBlank c
  · rw [trimRight_of_blank hall, trim, trim, trimLeft_of_blank hall]
    rfl
  · obtain ⟨c, hmem, hc⟩ : ∃ c ∈ l, isBlank c = false := by simpa using hall
    obtain ⟨before, after, rfl⟩ := List.append_of_mem hmem
    have hidem : trimRight (trimRight after) = trimRight after :=
      List.rdropWhile_idempotent isBlank after
    rw [trimRight_append_cons hc, trim_append_cons hc, trim_append_cons hc, hidem]

theorem mem_of_mem_trim {c : Char} {l : List Char} (h : c ∈ trim l) : c ∈ l :=
  (List.dropWhile_sublist isBlank).subset ((List.rdropWhile_prefix isBlank _).subset h)

end Text

namespace Baggage

open Text

/-- A member as it is written. The white space around its key, its value and its properties is part
of them. -/
structure Member where
  key : List Char
  value : List Char
  properties : List (List Char)
  key_plain : ',' ∉ key ∧ ';' ∉ key ∧ '=' ∉ key
  value_plain : ',' ∉ value ∧ ';' ∉ value
  properties_plain : ∀ p ∈ properties, ',' ∉ p

structure Stray where
  text : List Char
  plain : ',' ∉ text
  unassigned : '=' ∉ text.takeWhile (· ≠ ';')

namespace Member

def text (m : Member) : List Char :=
  m.key ++ '=' :: m.value ++ m.properties.flatMap (';' :: ·)

/-- The member without its properties. -/
def bare (m : Member) : Member :=
  { m with properties := [], properties_plain := fun _ h ↦ absurd h List.not_mem_nil }

theorem takeWhile_text (m : Member) :
    m.text.takeWhile (· ≠ ';') = m.key ++ '=' :: m.value := by
  have hpair : ∀ c ∈ m.key ++ '=' :: m.value, decide (c ≠ ';') := by
    intro c hc
    refine decide_eq_true ?_
    rintro rfl
    rcases List.mem_append.1 hc with hkey | hvalue
    · exact m.key_plain.2.1 hkey
    · exact m.value_plain.2 (List.mem_of_ne_of_mem (by decide) hvalue)
  rw [text, List.takeWhile_append_of_pos hpair]
  cases m.properties <;> simp

theorem comma_not_mem_text (m : Member) : ',' ∉ m.text := by
  intro h
  rcases List.mem_append.1 h with hpair | hproperty
  · rcases List.mem_append.1 hpair with hkey | hvalue
    · exact m.key_plain.1 hkey
    · exact m.value_plain.1 (List.mem_of_ne_of_mem (by decide) hvalue)
  · obtain ⟨p, hp, hmem⟩ := List.mem_flatMap.1 hproperty
    exact m.properties_plain p hp (List.mem_of_ne_of_mem (by decide) hmem)

theorem member?_text (m : Member) : member? m.text = some (trim m.key, trim m.value) := by
  have hkey : '=' ∉ trimLeft m.key := fun h ↦
    m.key_plain.2.2 ((List.dropWhile_sublist isBlank).subset h)
  rw [member?, takeWhile_text, trim_append_cons (by decide), splitFirst_append hkey]
  exact congrArg some (Prod.ext (trim_trimLeft m.key) (trim_trimRight m.value))

theorem exists_properties_eq {l : List Char} (h : ',' ∉ l) : ∃ properties : List (List Char),
    properties.flatMap (';' :: ·) = l.dropWhile (· ≠ ';') ∧ ∀ p ∈ properties, ',' ∉ p := by
  cases hrest : l.dropWhile (· ≠ ';') with
  | nil => exact ⟨[], rfl, fun _ hp ↦ absurd hp List.not_mem_nil⟩
  | cons c r =>
    have hc : c = ';' := by
      have hfirst := List.head?_dropWhile_not (· ≠ ';') l
      rw [hrest] at hfirst
      simpa using hfirst
    have hr : ',' ∉ r := fun hmem ↦
      h ((List.dropWhile_sublist _).subset (hrest ▸ List.mem_cons_of_mem c hmem))
    exact ⟨[r], by simp [hc], by simpa using hr⟩

theorem exists_text_eq {l : List Char} (h : ',' ∉ l) (hassigned : '=' ∈ l.takeWhile (· ≠ ';')) :
    ∃ m : Member, m.text = l := by
  obtain ⟨key, value, hpair, hkey⟩ := List.eq_append_cons_of_mem hassigned
  obtain ⟨properties, hproperties, hplain⟩ := exists_properties_eq h
  have hcomma : ',' ∉ key ++ '=' :: value :=
    hpair ▸ fun hmem ↦ h ((List.takeWhile_sublist _).subset hmem)
  have hsemicolon : ';' ∉ key ++ '=' :: value :=
    hpair ▸ fun hmem ↦ by simpa using List.mem_takeWhile_imp hmem
  have hcommas : ',' ∉ key ∧ ',' ∉ value := by simpa using hcomma
  have hsemicolons : ';' ∉ key ∧ ';' ∉ value := by simpa using hsemicolon
  refine ⟨⟨key, value, properties, ⟨hcommas.1, hsemicolons.1, hkey⟩,
    ⟨hcommas.2, hsemicolons.2⟩, hplain⟩, ?_⟩
  rw [text, ← hpair, hproperties, List.takeWhile_append_dropWhile]

end Member

theorem Stray.member?_text (s : Stray) : member? s.text = none := by
  have hnone : splitFirst '=' (trim (s.text.takeWhile (· ≠ ';'))) = none :=
    splitFirst_eq_none_iff.2 (fun h ↦ s.unassigned (mem_of_mem_trim h))
  rw [member?, hnone, Option.map_none]

/-- What stands between two commas of a header. -/
inductive Part where
  | member (m : Member)
  | stray (s : Stray)

namespace Part

def text : Part → List Char
  | member m => m.text
  | stray s => s.text

/-- The part without properties. -/
def bare : Part → Part
  | member m => member m.bare
  | stray s => stray s

/-- Whether the part is a member whose value is more than white space. -/
def hasValue : Part → Bool
  | member m => trim m.value ≠ []
  | stray _ => false

/-- The value that the part has under the key. -/
def offer? (key : String) : Part → Option String
  | member m =>
    if trim m.key = key.toList ∧ trim m.value ≠ [] then some (String.ofList (trim m.value))
    else none
  | stray _ => none

theorem comma_not_mem_text (p : Part) : ',' ∉ p.text := by
  cases p with
  | member m => exact m.comma_not_mem_text
  | stray s => exact s.plain

theorem filter_member?_text (key : String) (p : Part) :
    ((member? p.text).filter (fun (k, v) ↦ k = key.toList && !v.isEmpty)).map
      (fun (_, v) ↦ String.ofList v) = p.offer? key := by
  cases p with
  | member m =>
    rw [text, m.member?_text, offer?]
    split <;> simp_all
  | stray s => rw [text, s.member?_text]; rfl

theorem offer?_bare (key : String) (p : Part) : p.bare.offer? key = p.offer? key := by
  cases p <;> rfl

theorem offer?_eq_none_of_not_hasValue {p : Part} (h : p.hasValue = false) (key : String) :
    p.offer? key = none := by
  cases p with
  | member m =>
    have hvalue : trim m.value = [] := by simpa [hasValue] using h
    exact if_neg (fun hoffer ↦ hoffer.2 hvalue)
  | stray s => rfl

theorem exists_text_eq {l : List Char} (h : ',' ∉ l) : ∃ p : Part, p.text = l := by
  by_cases hassigned : '=' ∈ l.takeWhile (· ≠ ';')
  · obtain ⟨m, hm⟩ := Member.exists_text_eq h hassigned
    exact ⟨member m, hm⟩
  · exact ⟨stray ⟨l, h, hassigned⟩, rfl⟩

end Part

/-- The header in which the parts stand between commas. -/
def headerText (parts : List Part) : String :=
  String.ofList (joinWith [','] (parts.map Part.text))

theorem exists_headerText_eq (header : String) : ∃ parts, headerText parts = header := by
  have htexts : ∀ l ∈ splitAll (· = ',') header.toList, l ∈ Set.range Part.text := by
    intro l hl
    refine Part.exists_text_eq (fun hmem ↦ ?_)
    exact (not_of_mem_splitAll hl hmem).1 (decide_eq_true rfl)
  obtain ⟨parts, hparts⟩ := (Set.range_list_map Part.text).ge htexts
  exact ⟨parts, by rw [headerText, hparts, joinWith_splitAll, String.ofList_toList]⟩

theorem members_headerText (parts : List Part) :
    members (headerText parts).toList = parts.filterMap (fun p ↦ member? p.text) := by
  rw [members, headerText, String.toList_ofList]
  cases parts with
  | nil => rfl
  | cons p parts =>
    rw [splitAll_joinWith (by simp), List.filterMap_map]
    · rfl
    · rintro _ hmem
      obtain ⟨q, -, rfl⟩ := List.mem_map.1 hmem
      exact q.comma_not_mem_text

theorem value?_headerText (parts : List Part) (key : String) :
    value? (headerText parts) key = parts.findSome? (Part.offer? key) := by
  rw [value?, members_headerText, ← List.head?_filter, ← List.head?_map, List.filter_filterMap,
    List.map_filterMap, List.head?_filterMap]
  exact congrArg (parts.findSome? ·) (funext (Part.filter_member?_text key))

/-- Every header is parts between commas, and what is read under a key is what the first part that
has a value under it has. Properties, strays and members without a value change nothing. -/
theorem header_yields_first_offer :
    (∀ header, ∃ parts, headerText parts = header) ∧
      ∀ (parts : List Part) (key : String),
        value? (headerText parts) key = parts.findSome? (Part.offer? key) ∧
        value? (headerText (parts.map Part.bare)) key = value? (headerText parts) key ∧
        value? (headerText (parts.filter Part.hasValue)) key = value? (headerText parts) key := by
  refine ⟨exists_headerText_eq, fun parts key ↦ ⟨value?_headerText parts key, ?_, ?_⟩⟩
  · rw [value?_headerText, value?_headerText, List.findSome?_map]
    exact congrArg (parts.findSome? ·) (funext (Part.offer?_bare key))
  · rw [value?_headerText, value?_headerText, ← List.head?_filterMap, List.filterMap_filter,
      List.head?_filterMap]
    refine congrArg (parts.findSome? ·) (funext fun p ↦ ?_)
    cases hvalue : p.hasValue with
    | true => rfl
    | false => exact (Part.offer?_eq_none_of_not_hasValue hvalue key).symm

example : value? "x;flow=1, flow= ;y, z=1;flow=2, flow = a=b ;c, flow=d" "flow" = some "a=b" := by
  decide

end Baggage

end FlowCorrelation
