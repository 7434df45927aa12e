import FlowCorrelation.Proofs.UrlTemplate
import Mathlib.Data.List.Forall2

namespace FlowCorrelation

open Text

variable {l l' s s' origin path : List Char}

inductive IdForm where
  | uuid
  | numeral
  | ulid
  | hash
deriving DecidableEq, Repr

namespace IdForm

def order : List IdForm := [.uuid, .numeral, .ulid, .hash]

def fits : IdForm → List Char → Bool
  | .uuid, s => isUuid s
  | .numeral, s => isNumeral s
  | .ulid, s => isUlid s
  | .hash, s => isHash s

def placeholder : IdForm → List Char
  | .uuid => "\x7buuid\x7d".toList
  | .numeral => "\x7bid\x7d".toList
  | .ulid => "\x7bid\x7d".toList
  | .hash => "\x7bhash\x7d".toList

def of? (s : List Char) : Option IdForm := order.find? (fun form ↦ form.fits s)

theorem of?_eq_none_iff : of? s = none ↔ ∀ form : IdForm, ¬ form.fits s := by
  rw [of?, List.find?_eq_none]
  constructor
  · intro h form
    exact h form (by cases form <;> decide)
  · intro h form _
    exact h form

theorem placeholder_mem (form : IdForm) : form.placeholder ∈ placeholders := by
  cases form <;> decide

theorem of?_eq_none_of_mem_placeholders : ∀ s ∈ placeholders, of? s = none := by decide +kernel

end IdForm

theorem templateSegment_eq (s : List Char) :
    templateSegment s = ((IdForm.of? s).map IdForm.placeholder).getD s := by
  unfold templateSegment IdForm.of? IdForm.order
  simp only [List.find?_cons, List.find?_nil, IdForm.fits]
  cases isUuid s <;> cases isNumeral s <;> cases isUlid s <;> cases isHash s <;> rfl

structure IsSegmentTemplate (s s' : List Char) : Prop where
  kept : (∀ form : IdForm, ¬ form.fits s) → s' = s
  replaced : ∀ form, IdForm.of? s = some form → s' = form.placeholder
  plain : ∀ form : IdForm, ¬ form.fits s'

theorem isSegmentTemplate_templateSegment (s : List Char) :
    IsSegmentTemplate s (templateSegment s) := by
  rw [templateSegment_eq]
  cases hform : IdForm.of? s with
  | none =>
    refine ⟨fun _ ↦ rfl, ?_, IdForm.of?_eq_none_iff.1 hform⟩
    intro form hsome
    cases hform.symm.trans hsome
  | some form =>
    refine ⟨?_, ?_, ?_⟩
    · intro hplain
      rw [IdForm.of?_eq_none_iff.2 hplain] at hform
      cases hform
    · intro form' hsome
      cases hform.symm.trans hsome
      rfl
    · exact IdForm.of?_eq_none_iff.1
        (IdForm.of?_eq_none_of_mem_placeholders _ form.placeholder_mem)

def AlikeSegments (s s' : List Char) : Prop :=
  s = s' ∨ ∃ form, IdForm.of? s = some form ∧ IdForm.of? s' = some form

theorem AlikeSegments.templateSegment_eq (h : AlikeSegments s s') :
    templateSegment s = templateSegment s' := by
  rcases h with rfl | ⟨form, hs, hs'⟩
  · rfl
  · rw [FlowCorrelation.templateSegment_eq, FlowCorrelation.templateSegment_eq, hs, hs']
    rfl

def segments (path : List Char) : List (List Char) := splitAll (· = '/') path

/-- Whether the first of two texts is the scheme with the authority of the second, or empty and the
second has no scheme. -/
inductive IsOrigin : List Char → List Char → Prop where
  | absolute {scheme authority rest : List Char} (hscheme : scheme.all isSchemeChar)
    (hhead : scheme.head?.any Char.isAlpha) (hauthority : ∀ c ∈ authority, ¬ endsAuthority c)
    (hrest : ∀ c ∈ rest.head?, endsAuthority c) :
    IsOrigin (scheme ++ ':' :: '/' :: '/' :: authority)
      (scheme ++ ':' :: '/' :: '/' :: (authority ++ rest))
  | relative {l : List Char} (h : ¬ HasScheme l) : IsOrigin [] l

theorem splitOrigin_append (l : List Char) : (splitOrigin l).1 ++ (splitOrigin l).2 = l := by
  by_cases h : HasScheme l
  · obtain ⟨scheme, rest, rfl, hall, hhead⟩ := h
    rw [splitOrigin_of_scheme hall hhead]
    simp [List.takeWhile_append_dropWhile]
  · rw [splitOrigin_of_not_hasScheme h]
    rfl

theorem isOrigin_splitOrigin (l : List Char) : IsOrigin (splitOrigin l).1 l := by
  by_cases h : HasScheme l
  · obtain ⟨scheme, rest, rfl, hall, hhead⟩ := h
    rw [splitOrigin_of_scheme hall hhead]
    have hauthority := List.all_eq_true.1
      (List.all_takeWhile (p := (!endsAuthority ·)) (l := rest))
    have hrest : ∀ c ∈ (rest.dropWhile (!endsAuthority ·)).head?, endsAuthority c := by
      intro c hc
      have hdrop := List.head?_dropWhile_not (!endsAuthority ·) rest
      rw [Option.mem_def.1 hc] at hdrop
      simpa using hdrop
    have horigin := IsOrigin.absolute hall hhead (fun c hc ↦ by simpa using hauthority c hc) hrest
    rwa [List.takeWhile_append_dropWhile] at horigin
  · rw [splitOrigin_of_not_hasScheme h]
    exact .relative h

theorem IsOrigin.eq_splitOrigin (h : IsOrigin origin l) : origin = (splitOrigin l).1 := by
  cases h with
  | @absolute scheme authority rest hscheme hhead hauthority hrest =>
    have hnone : rest.takeWhile (!endsAuthority ·) = [] := by
      cases rest with
      | nil => rfl
      | cons c r => simpa using hrest c rfl
    rw [splitOrigin_of_scheme hscheme hhead,
      List.takeWhile_append_of_pos (fun c hc ↦ by simpa using hauthority c hc), hnone,
      List.append_nil]
  | relative h => rw [splitOrigin_of_not_hasScheme h]

/-- Whether two texts without a query have the same origin and segments that are related one by
one. -/
def Corresponds (R : List Char → List Char → Prop) (l l' : List Char) : Prop :=
  ∃ origin path path', l = origin ++ path ∧ l' = origin ++ path' ∧ IsOrigin origin l ∧
    IsOrigin origin l' ∧ List.Forall₂ R (segments path) (segments path')

theorem corresponds_iff {R : List Char → List Char → Prop} : Corresponds R l l' ↔
    (splitOrigin l).1 = (splitOrigin l').1 ∧
      List.Forall₂ R (segments (splitOrigin l).2) (segments (splitOrigin l').2) := by
  constructor
  · rintro ⟨origin, path, path', hl, hl', horigin, horigin', hsegments⟩
    have hcut {l path : List Char} (hl : l = origin ++ path) (horigin : IsOrigin origin l) :
        (splitOrigin l).2 = path := by
      have hwhole := (splitOrigin_append l).trans hl
      rw [← horigin.eq_splitOrigin] at hwhole
      exact List.append_cancel_left hwhole
    rw [hcut hl horigin, hcut hl' horigin']
    exact ⟨horigin.eq_splitOrigin.symm.trans horigin'.eq_splitOrigin, hsegments⟩
  · rintro ⟨horigin, hsegments⟩
    refine ⟨(splitOrigin l).1, _, _, (splitOrigin_append l).symm, ?_, isOrigin_splitOrigin l, ?_,
      hsegments⟩
    · rw [horigin, splitOrigin_append]
    · rw [horigin]
      exact isOrigin_splitOrigin l'

/-- Whether a text is a template of a URL. -/
structure IsUrlTemplate (url template : List Char) : Prop where
  bare : IsBare template
  parts : Corresponds IsSegmentTemplate (withoutQuery url) template

/-- Whether two URLs differ only in their queries, their fragments and ids of the same form. -/
def AlikeUrls (url url' : List Char) : Prop :=
  Corresponds AlikeSegments (withoutQuery url) (withoutQuery url')

theorem isUrlTemplate_normalizeUrlChars (l : List Char) :
    IsUrlTemplate l (normalizeUrlChars l) := by
  obtain ⟨hbare, hcut⟩ := isBare_and_splitOrigin_normalizeUrlChars l
  refine ⟨hbare, corresponds_iff.2 ?_⟩
  rw [hcut]
  refine ⟨rfl, ?_⟩
  rw [segments, segments, splitAll_templatePath, List.forall₂_map_right_iff, List.forall₂_same]
  intro s _
  exact isSegmentTemplate_templateSegment s

theorem AlikeUrls.normalizeUrlChars_eq (h : AlikeUrls l l') :
    normalizeUrlChars l = normalizeUrlChars l' := by
  obtain ⟨horigin, hsegments⟩ := corresponds_iff.1 h
  have hpaths : (segments (splitOrigin (withoutQuery l)).2).map templateSegment =
      (segments (splitOrigin (withoutQuery l')).2).map templateSegment := by
    rw [← List.forall₂_eq_eq_eq, List.forall₂_map_left_iff, List.forall₂_map_right_iff]
    exact hsegments.imp (fun _ _ hs ↦ hs.templateSegment_eq)
  rw [FlowCorrelation.normalizeUrlChars_eq, FlowCorrelation.normalizeUrlChars_eq, horigin]
  exact congrArg (_ ++ joinWith ['/'] ·) hpaths

/-- The template of a URL has no query, its origin and for each of its segments one that is no id,
it is its own template, and it is the template of all URLs that are alike. -/
theorem normalizeUrl_isUrlTemplate (url : String) :
    IsUrlTemplate url.toList (normalizeUrl url).toList ∧
    normalizeUrl (normalizeUrl url) = normalizeUrl url ∧
    ∀ url' : String, AlikeUrls url.toList url'.toList → normalizeUrl url' = normalizeUrl url := by
  refine ⟨?_, normalizeUrl_normalizeUrl url, ?_⟩
  · rw [normalizeUrl, String.toList_ofList]
    exact isUrlTemplate_normalizeUrlChars url.toList
  · intro url' h
    rw [normalizeUrl, normalizeUrl, h.normalizeUrlChars_eq]

/-- Orders of one shop are alike, whatever is asked of them. -/
theorem normalizeUrl_of_two_orders :
    normalizeUrl "https://shop.test:8443/orders/17#total" =
      normalizeUrl "https://shop.test:8443/orders/991?expand=items" := by
  refine (normalizeUrl_isUrlTemplate "https://shop.test:8443/orders/991?expand=items").2.2 _ ?_
  refine corresponds_iff.2 ⟨by decide +kernel, ?_⟩
  have hnumeral : AlikeSegments "991".toList "17".toList :=
    Or.inr ⟨.numeral, by decide +kernel, by decide +kernel⟩
  exact .cons (Or.inl rfl) (.cons (Or.inl rfl) (.cons hnumeral .nil))

end FlowCorrelation
