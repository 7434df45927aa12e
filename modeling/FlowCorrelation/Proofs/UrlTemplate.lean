import FlowCorrelation.UrlTemplate
import Mathlib.Data.List.TakeWhile

namespace FlowCorrelation

open Text

def placeholders : List (List Char) :=
  ["\x7buuid\x7d".toList, "\x7bid\x7d".toList, "\x7bhash\x7d".toList]

variable {l path : List Char} {c : Char}

theorem templateSegment_cases (l : List Char) :
    templateSegment l = l ∨ templateSegment l ∈ placeholders := by
  unfold templateSegment placeholders
  repeat' split
  all_goals simp

theorem templateSegment_of_mem_placeholders :
    ∀ l ∈ placeholders, templateSegment l = l := by decide +kernel

theorem templateSegment_templateSegment (l : List Char) :
    templateSegment (templateSegment l) = templateSegment l := by
  rcases templateSegment_cases l with h | h
  · rw [h, h]
  · exact templateSegment_of_mem_placeholders _ h

theorem mem_of_mem_templateSegment (h : c ∈ templateSegment l) (hc : ∀ p ∈ placeholders, c ∉ p) :
    c ∈ l := by
  rcases templateSegment_cases l with hl | hl
  · exact hl ▸ h
  · exact absurd h (hc _ hl)

theorem slash_not_mem_templateSegment (h : '/' ∉ l) : '/' ∉ templateSegment l := fun hc ↦
  h (mem_of_mem_templateSegment hc (by decide))

theorem templateSegment_nil : templateSegment [] = [] := by decide

/-- The path with placeholders in place of ids. -/
def templatePath (path : List Char) : List Char :=
  joinWith ['/'] ((splitAll (· = '/') path).map templateSegment)

theorem slash_not_mem_of_mem_splitAll (h : l ∈ splitAll (· = '/') path) : '/' ∉ l := fun hc ↦
  (not_of_mem_splitAll h hc).1 (decide_eq_true rfl)

theorem splitAll_templatePath (path : List Char) :
    splitAll (· = '/') (templatePath path) = (splitAll (· = '/') path).map templateSegment := by
  refine splitAll_joinWith (by simpa using splitAll_ne_nil _ path) (fun part hpart ↦ ?_)
  obtain ⟨s, hs, rfl⟩ := List.mem_map.1 hpart
  exact slash_not_mem_templateSegment (slash_not_mem_of_mem_splitAll hs)

theorem templatePath_templatePath (path : List Char) :
    templatePath (templatePath path) = templatePath path := by
  have hsegments : ((splitAll (· = '/') path).map templateSegment).map templateSegment =
      (splitAll (· = '/') path).map templateSegment := by
    simp [templateSegment_templateSegment]
  rw [templatePath, splitAll_templatePath, hsegments]
  rfl

theorem templatePath_nil : templatePath [] = [] := by decide

theorem templatePath_slash (path : List Char) :
    templatePath ('/' :: path) = '/' :: templatePath path := by
  have hcut : splitAll (· = '/') ('/' :: path) = [] :: splitAll (· = '/') path :=
    splitAll_cons_of_pos (by decide) path
  rw [templatePath, hcut, List.map_cons, templateSegment_nil,
    joinWith_cons _ _ (by simpa using splitAll_ne_nil _ path)]
  rfl

theorem mem_joinWith {sep : List Char} {parts : List (List Char)} (h : c ∈ joinWith sep parts) :
    c ∈ sep ∨ ∃ part ∈ parts, c ∈ part := by
  induction parts with
  | nil => simp [joinWith] at h
  | cons part parts ih =>
    cases parts with
    | nil => exact Or.inr ⟨part, List.mem_cons_self, h⟩
    | cons q qs =>
      rw [joinWith_cons _ _ (List.cons_ne_nil q qs)] at h
      rcases List.mem_append.1 h with h | h
      · rcases List.mem_append.1 h with h | h
        · exact Or.inr ⟨part, List.mem_cons_self, h⟩
        · exact Or.inl h
      · obtain hsep | ⟨r, hr, hc⟩ := ih h
        · exact Or.inl hsep
        · exact Or.inr ⟨r, List.mem_cons_of_mem part hr, hc⟩

theorem mem_of_mem_templatePath (h : c ∈ templatePath path) (hslash : c ≠ '/')
    (hc : ∀ p ∈ placeholders, c ∉ p) : c ∈ path := by
  rcases mem_joinWith h with hsep | ⟨part, hpart, hmem⟩
  · exact absurd (List.mem_singleton.1 hsep) hslash
  · obtain ⟨s, hs, rfl⟩ := List.mem_map.1 hpart
    exact (not_of_mem_splitAll hs (mem_of_mem_templateSegment hmem hc)).2

def HasScheme (l : List Char) : Prop :=
  ∃ scheme rest, l = scheme ++ ':' :: '/' :: '/' :: rest ∧ scheme.all isSchemeChar ∧
    scheme.head?.any Char.isAlpha

theorem drop_length_takeWhile {α : Type} (p : α → Bool) (l : List α) :
    l.drop (l.takeWhile p).length = l.dropWhile p := by
  induction l with
  | nil => rfl
  | cons a l ih => cases h : p a <;> simp [h, ih]

def endsAuthority (c : Char) : Bool := c = '/' || c = '?' || c = '#'

theorem splitOrigin_of_scheme {scheme : List Char} (hall : scheme.all isSchemeChar)
    (hhead : scheme.head?.any Char.isAlpha) (rest : List Char) :
    splitOrigin (scheme ++ ':' :: '/' :: '/' :: rest) =
      (scheme ++ ':' :: '/' :: '/' :: rest.takeWhile (!endsAuthority ·),
        rest.dropWhile (!endsAuthority ·)) := by
  have hcolon : isSchemeChar ':' = false := by decide
  have htake : (scheme ++ ':' :: '/' :: '/' :: rest).takeWhile isSchemeChar = scheme := by
    rw [List.takeWhile_append_of_pos (List.all_eq_true.1 hall),
      List.takeWhile_cons_of_neg (by simp [hcolon]), List.append_nil]
  have hends : (fun c : Char ↦ c ≠ '/' && c ≠ '?' && c ≠ '#') = (!endsAuthority ·) := by
    funext c
    simp [endsAuthority, Bool.and_assoc]
  simp only [splitOrigin, htake, List.drop_left, hhead, if_true]
  rw [hends, drop_length_takeWhile]

theorem splitOrigin_of_not_hasScheme (h : ¬ HasScheme l) : splitOrigin l = ([], l) := by
  simp only [splitOrigin]
  split
  · rename_i rest hrest
    split
    · rename_i hhead
      refine absurd ⟨_, rest, ?_, List.all_takeWhile, hhead⟩ h
      rw [← hrest, drop_length_takeWhile, List.takeWhile_append_dropWhile]
    · rfl
  · rfl

/-- A scheme is a segment that ends in a colon and is followed by an empty one. -/
theorem hasScheme_iff : HasScheme l ↔ ∃ scheme more,
    splitAll (· = '/') l = (scheme ++ [':']) :: [] :: more ∧ more ≠ [] ∧
      scheme.all isSchemeChar ∧ scheme.head?.any Char.isAlpha := by
  constructor
  · rintro ⟨scheme, rest, rfl, hall, hhead⟩
    have hslash : ∀ c ∈ scheme ++ [':'], ¬ decide (c = '/') := by
      intro c hc heq
      rw [of_decide_eq_true heq] at hc
      rcases List.mem_append.1 hc with hc | hc
      · exact absurd (List.all_eq_true.1 hall '/' hc) (by decide)
      · exact absurd (List.mem_singleton.1 hc) (by decide)
    have hcut := @splitAll_append _ (· = '/') _ hslash '/' (by simp) ('/' :: rest)
    have hempty : splitAll (· = '/') ('/' :: rest) = [] :: splitAll (· = '/') rest :=
      splitAll_cons_of_pos (by simp) rest
    rw [hempty, List.append_assoc] at hcut
    exact ⟨scheme, _, hcut, splitAll_ne_nil _ rest, hall, hhead⟩
  · rintro ⟨scheme, more, hcut, hne, hall, hhead⟩
    refine ⟨scheme, joinWith ['/'] more, ?_, hall, hhead⟩
    rw [← joinWith_splitAll '/' l, hcut, joinWith_cons _ _ (List.cons_ne_nil _ _),
      joinWith_cons _ _ hne]
    simp

theorem hasScheme_of_hasScheme_templatePath (h : HasScheme (templatePath path)) :
    HasScheme path := by
  obtain ⟨scheme, more, hcut, hne, hall, hhead⟩ := hasScheme_iff.1 h
  rw [splitAll_templatePath] at hcut
  obtain ⟨s, rest, hs, hfirst, hrest⟩ := List.map_eq_cons_iff.1 hcut
  obtain ⟨s', more', rfl, hsecond, rfl⟩ := List.map_eq_cons_iff.1 hrest
  -- Neither of the two segments is a placeholder, so both stand in the path itself.
  have hs' : s = scheme ++ [':'] := by
    rcases templateSegment_cases s with heq | hmem
    · exact heq.symm.trans hfirst
    · have hlast : ∀ p ∈ placeholders, p.getLast? ≠ some ':' := by decide
      exact absurd (by simp [hfirst]) (hlast _ hmem)
  have hempty : s' = [] := by
    rcases templateSegment_cases s' with heq | hmem
    · exact heq.symm.trans hsecond
    · rw [hsecond] at hmem
      exact absurd hmem (by decide)
  exact hasScheme_iff.2 ⟨scheme, more', by rw [hs, hs', hempty], by simpa using hne, hall, hhead⟩

theorem normalizeUrlChars_eq (l : List Char) : normalizeUrlChars l =
    (splitOrigin (withoutQuery l)).1 ++ templatePath (splitOrigin (withoutQuery l)).2 := rfl

def IsBare (l : List Char) : Prop := '?' ∉ l ∧ '#' ∉ l

theorem withoutQuery_eq_self (h : IsBare l) : withoutQuery l = l := by
  refine List.takeWhile_eq_self_iff.2 (fun c hc ↦ ?_)
  have hquery : c ≠ '?' := fun heq ↦ h.1 (heq ▸ hc)
  have hfragment : c ≠ '#' := fun heq ↦ h.2 (heq ▸ hc)
  simp [hquery, hfragment]

theorem isBare_withoutQuery (l : List Char) : IsBare (withoutQuery l) := by
  have hall := List.all_eq_true.1 (List.all_takeWhile (p := fun c ↦ c ≠ '?' && c ≠ '#') (l := l))
  exact ⟨fun h ↦ absurd (hall _ h) (by decide), fun h ↦ absurd (hall _ h) (by decide)⟩

theorem IsBare.templatePath (h : IsBare path) : IsBare (templatePath path) :=
  ⟨fun hc ↦ h.1 (mem_of_mem_templatePath hc (by decide) (by decide)),
    fun hc ↦ h.2 (mem_of_mem_templatePath hc (by decide) (by decide))⟩

theorem isBare_append {l' : List Char} : IsBare (l ++ l') ↔ IsBare l ∧ IsBare l' := by
  simp only [IsBare, List.mem_append, not_or]
  exact and_and_and_comm

/-- The origin of a text without a query ends where a slash or nothing follows, and it is found
again whatever stands behind that slash. -/
theorem splitOrigin_cases (h : IsBare l) :
    (¬ HasScheme l ∧ splitOrigin l = ([], l)) ∨
      ∃ origin path, l = origin ++ path ∧ splitOrigin l = (origin, path) ∧
        (path = [] ∨ ∃ r, path = '/' :: r) ∧
        ∀ path', (path' = [] ∨ ∃ r, path' = '/' :: r) →
          splitOrigin (origin ++ path') = (origin, path') := by
  by_cases hscheme : HasScheme l
  · obtain ⟨scheme, rest, rfl, hall, hhead⟩ := hscheme
    have hrest : IsBare rest := ⟨fun hc ↦ h.1 (by simp [hc]), fun hc ↦ h.2 (by simp [hc])⟩
    refine Or.inr ⟨_, _, ?_, splitOrigin_of_scheme hall hhead rest, ?_, fun path' hpath' ↦ ?_⟩
    · simp [List.takeWhile_append_dropWhile]
    · cases hpath : rest.dropWhile (!endsAuthority ·) with
      | nil => exact Or.inl rfl
      | cons c r =>
        -- Of the characters that end an authority only the slash stands in a bare text.
        have hfirst : rest.find? endsAuthority = some c := by
          rw [List.find?_eq_head?_dropWhile_not, hpath, List.head?_cons]
        have hc : endsAuthority c := List.find?_some hfirst
        have hmem : c ∈ rest := List.mem_of_find?_eq_some hfirst
        have hquery : c ≠ '?' := fun heq ↦ hrest.1 (heq ▸ hmem)
        have hfragment : c ≠ '#' := fun heq ↦ hrest.2 (heq ▸ hmem)
        have hslash : c = '/' := by simpa [endsAuthority, hquery, hfragment] using hc
        exact Or.inr ⟨r, by rw [hslash]⟩
    · have hauthority := List.all_eq_true.1
        (List.all_takeWhile (p := (!endsAuthority ·)) (l := rest))
      have hnext : path'.takeWhile (!endsAuthority ·) = [] ∧
          path'.dropWhile (!endsAuthority ·) = path' := by
        rcases hpath' with rfl | ⟨r, rfl⟩ <;> simp [endsAuthority]
      have hcut := splitOrigin_of_scheme hall hhead (rest.takeWhile (!endsAuthority ·) ++ path')
      rw [List.takeWhile_append_of_pos hauthority, List.dropWhile_append_of_pos hauthority,
        hnext.1, hnext.2, List.append_nil] at hcut
      simpa using hcut
  · exact Or.inl ⟨hscheme, splitOrigin_of_not_hasScheme hscheme⟩

theorem templatePath_of_slash (h : path = [] ∨ ∃ r, path = '/' :: r) :
    templatePath path = [] ∨ ∃ r, templatePath path = '/' :: r := by
  rcases h with rfl | ⟨r, rfl⟩
  · exact Or.inl templatePath_nil
  · exact Or.inr ⟨_, templatePath_slash r⟩

/-- A template has no query, and it is cut into the same origin as the text and the template of its
path. -/
theorem isBare_and_splitOrigin_normalizeUrlChars (l : List Char) : IsBare (normalizeUrlChars l) ∧
    splitOrigin (normalizeUrlChars l) =
      ((splitOrigin (withoutQuery l)).1, templatePath (splitOrigin (withoutQuery l)).2) := by
  have hbare := isBare_withoutQuery l
  rcases splitOrigin_cases hbare with ⟨hscheme, hcut⟩ | ⟨origin, path, hl, hcut, hpath, hstable⟩
  · -- Placeholders must not make a scheme of what was none.
    have hscheme' : ¬ HasScheme (templatePath (withoutQuery l)) := fun h ↦
      hscheme (hasScheme_of_hasScheme_templatePath h)
    rw [normalizeUrlChars_eq, hcut, List.nil_append]
    exact ⟨hbare.templatePath, splitOrigin_of_not_hasScheme hscheme'⟩
  · obtain ⟨horigin, hbare'⟩ := isBare_append.1 (hl ▸ hbare)
    rw [normalizeUrlChars_eq, hcut]
    exact ⟨isBare_append.2 ⟨horigin, hbare'.templatePath⟩, hstable _ (templatePath_of_slash hpath)⟩

theorem normalizeUrlChars_normalizeUrlChars (l : List Char) :
    normalizeUrlChars (normalizeUrlChars l) = normalizeUrlChars l := by
  obtain ⟨hbare, hcut⟩ := isBare_and_splitOrigin_normalizeUrlChars l
  rw [normalizeUrlChars_eq (normalizeUrlChars l), withoutQuery_eq_self hbare, hcut,
    templatePath_templatePath, ← normalizeUrlChars_eq]

theorem normalizeUrl_normalizeUrl (s : String) :
    normalizeUrl (normalizeUrl s) = normalizeUrl s := by
  simp only [normalizeUrl, String.toList_ofList, normalizeUrlChars_normalizeUrlChars]

theorem normalizeMethod_mem (s : String) : normalizeMethod s ∈ "_OTHER" :: knownMethods := by
  unfold normalizeMethod
  dsimp only
  split
  · rename_i hknown
    exact List.mem_cons_of_mem _ (List.contains_iff_mem.1 hknown)
  · exact List.mem_cons_self

theorem normalizeMethod_of_mem : ∀ s ∈ "_OTHER" :: knownMethods, normalizeMethod s = s := by
  decide +kernel

theorem normalizeMethod_normalizeMethod (s : String) :
    normalizeMethod (normalizeMethod s) = normalizeMethod s :=
  normalizeMethod_of_mem _ (normalizeMethod_mem s)

end FlowCorrelation
