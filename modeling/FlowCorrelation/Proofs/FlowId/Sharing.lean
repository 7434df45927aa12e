import FlowCorrelation.Proofs.FlowId.Stamp

namespace FlowCorrelation

/-- Whether the text has the form `head-time-suffix` of a stamped id. -/
def IsStamped (head suffix raw : String) : Prop :=
  IsSuffix suffix ∧ ∃ time : String, time ≠ "" ∧ time.toList.all Base36.isDigit ∧
    raw = head ++ "-" ++ time ++ "-" ++ suffix

theorem stampParts?_eq_some_iff {l h time suffix : List Char} :
    stampParts? l = some (h, time, suffix) ↔
      l = h ++ '-' :: (time ++ '-' :: suffix) ∧ '-' ∉ time ∧ '-' ∉ suffix := by
  constructor
  · intro hl
    simp only [stampParts?, Option.bind_eq_bind, Option.bind_eq_some_iff] at hl
    obtain ⟨⟨rest, suffix'⟩, hsuffix, ⟨h', time'⟩, htime, hparts⟩ := hl
    cases hparts
    obtain ⟨rfl, hs⟩ := Text.splitLast_eq_some_iff.1 hsuffix
    obtain ⟨rfl, ht⟩ := Text.splitLast_eq_some_iff.1 htime
    exact ⟨by simp, ht, hs⟩
  · rintro ⟨rfl, ht, hs⟩
    exact stampParts?_append h ht hs

variable {head suffix suffix' raw raw' : String}

theorem dash_not_mem_of_isDigit {l : List Char} (h : l.all Base36.isDigit) : '-' ∉ l := fun hc ↦
  absurd (List.all_eq_true.1 h '-' hc) (by decide)

theorem stampSuffix?_eq_some_iff (hhead : head ≠ "") :
    stampSuffix? head.toList raw.toList = some suffix.toList ↔ IsStamped head suffix raw := by
  have hne : head.toList ≠ [] := mt String.toList_eq_nil_iff.1 hhead
  constructor
  · intro h
    simp only [stampSuffix?, Option.bind_eq_bind, Option.bind_eq_some_iff] at h
    obtain ⟨⟨h', time, suffix'⟩, hparts, hcond⟩ := h
    split at hcond
    · rename_i hstamp
      obtain ⟨hlength, hhex, htime, hdigits, -, rfl⟩ := hstamp
      obtain rfl : suffix' = suffix.toList := Option.some.inj hcond
      obtain ⟨hraw, -, -⟩ := stampParts?_eq_some_iff.1 hparts
      refine ⟨⟨hlength, hhex⟩, String.ofList time, ?_, by simpa using hdigits, ?_⟩
      · exact fun hempty ↦ htime (by simpa using congrArg String.toList hempty)
      · exact String.toList_inj.1 (by simp [hraw, String.toList_append])
    · cases hcond
  · rintro ⟨hsuffix, time, htime, hdigits, rfl⟩
    have hparts := stampParts?_append head.toList (dash_not_mem_of_isDigit hdigits)
      hsuffix.dash_not_mem
    have hlist : (head ++ "-" ++ time ++ "-" ++ suffix).toList =
        head.toList ++ '-' :: (time.toList ++ '-' :: suffix.toList) := by
      simp [String.toList_append]
    rw [hlist, stampSuffix?, hparts]
    exact if_pos ⟨hsuffix.1, hsuffix.2, mt String.toList_eq_nil_iff.1 htime, hdigits, hne, rfl⟩

theorem IsStamped.identityKey_eq (hhead : head ≠ "") (h : IsStamped head suffix raw) :
    identityKey raw head = head ++ "-" ++ suffix := by
  simp only [identityKey, (stampSuffix?_eq_some_iff hhead).2 h, String.ofList_toList]

theorem identityKey_of_not_isStamped (hhead : head ≠ "")
    (h : ∀ suffix, ¬ IsStamped head suffix raw) : identityKey raw head = raw := by
  unfold identityKey
  split
  · rename_i l hl
    refine absurd ((stampSuffix?_eq_some_iff hhead).1 ?_) (h (String.ofList l))
    rw [hl, String.toList_ofList]
  · rfl

/-- What is left of a stamped text without its time is not stamped: it has too few dashes. -/
theorem IsSuffix.not_isStamped (h : IsSuffix suffix) :
    ¬ IsStamped head suffix' (head ++ "-" ++ suffix) := by
  rintro ⟨-, time, -, -, heq⟩
  have hrest : head ++ "-" ++ suffix = head ++ "-" ++ (time ++ "-" ++ suffix') := by
    simpa only [String.append_assoc] using heq
  have hsuffix := (String.append_right_inj _).1 hrest
  exact h.dash_not_mem (by simp [hsuffix, String.toList_append])

theorem IsSuffix.identityKey_eq (hhead : head ≠ "") (h : IsSuffix suffix) :
    identityKey (head ++ "-" ++ suffix) head = head ++ "-" ++ suffix :=
  identityKey_of_not_isStamped hhead (fun _ ↦ h.not_isStamped)

/-- Two texts have one key if they are equal or stamped with one suffix, or if one of them is the
key of the other. -/
theorem identityKey_eq_iff (hhead : head ≠ "") :
    identityKey raw head = identityKey raw' head ↔ raw = raw' ∨
      (∃ suffix, IsStamped head suffix raw ∧ IsStamped head suffix raw') ∨
      (∃ suffix, IsStamped head suffix raw ∧ raw' = head ++ "-" ++ suffix) ∨
      (∃ suffix, raw = head ++ "-" ++ suffix ∧ IsStamped head suffix raw') := by
  constructor
  · intro hkey
    by_cases h : ∃ suffix, IsStamped head suffix raw <;>
      by_cases h' : ∃ suffix, IsStamped head suffix raw'
    · obtain ⟨suffix, h⟩ := h
      obtain ⟨suffix', h'⟩ := h'
      rw [h.identityKey_eq hhead, h'.identityKey_eq hhead] at hkey
      exact Or.inr (Or.inl ⟨suffix, h, (String.append_right_inj _).1 hkey ▸ h'⟩)
    · obtain ⟨suffix, h⟩ := h
      rw [h.identityKey_eq hhead, identityKey_of_not_isStamped hhead (not_exists.1 h')] at hkey
      exact Or.inr (Or.inr (Or.inl ⟨suffix, h, hkey.symm⟩))
    · obtain ⟨suffix, h'⟩ := h'
      rw [h'.identityKey_eq hhead, identityKey_of_not_isStamped hhead (not_exists.1 h)] at hkey
      exact Or.inr (Or.inr (Or.inr ⟨suffix, hkey, h'⟩))
    · rw [identityKey_of_not_isStamped hhead (not_exists.1 h),
        identityKey_of_not_isStamped hhead (not_exists.1 h')] at hkey
      exact Or.inl hkey
  · rintro (rfl | ⟨suffix, h, h'⟩ | ⟨suffix, h, rfl⟩ | ⟨suffix, rfl, h'⟩)
    · rfl
    · rw [h.identityKey_eq hhead, h'.identityKey_eq hhead]
    · rw [h.identityKey_eq hhead, h.1.identityKey_eq hhead]
    · rw [h'.identityKey_eq hhead, h'.1.identityKey_eq hhead]

/-- Two ids share a flow if they are equal or stamped with one suffix, or if one of them is not
stamped and is what the other is without its time. -/
theorem FlowId.identity_eq_iff (hhead : head ≠ "") (x y : FlowId) :
    x.identity head = y.identity head ↔ x = y ∨
      (∃ suffix, IsStamped head suffix x.text ∧ IsStamped head suffix y.text) ∨
      (∃ suffix, IsStamped head suffix x.text ∧ y.text = head ++ "-" ++ suffix) ∨
      (∃ suffix, x.text = head ++ "-" ++ suffix ∧ IsStamped head suffix y.text) := by
  have htext : x = y ↔ x.text = y.text := ⟨congrArg FlowId.text, FlowId.ext⟩
  rw [htext]
  exact identityKey_eq_iff hhead

/-- Under a head with a dash, two stamps of one suffix share a flow. -/
theorem FlowId.identity_eq_under_dashed_head :
    let x : FlowId := ⟨"my-shop-k1-0badf00d", by decide +kernel⟩
    let y : FlowId := ⟨"my-shop-k2-0badf00d", by decide +kernel⟩
    "my-shop" ≠ "" ∧ x ≠ y ∧ x.identity "my-shop" = y.identity "my-shop" := by
  intro x y
  have hhead : "my-shop" ≠ "" := by decide
  have hsuffix : IsSuffix "0badf00d" := by decide +kernel
  have hx : IsStamped "my-shop" "0badf00d" x.text := ⟨hsuffix, "k1", by decide +kernel⟩
  have hy : IsStamped "my-shop" "0badf00d" y.text := ⟨hsuffix, "k2", by decide +kernel⟩
  exact ⟨hhead, by decide +kernel, (identity_eq_iff hhead x y).2 (Or.inr (Or.inl ⟨_, hx, hy⟩))⟩

/-- An id that is not stamped shares the flow of a stamped one. -/
theorem FlowId.identity_eq_of_unstamped :
    let x : FlowId := ⟨"olly-k1-a7b2c4d1", by decide +kernel⟩
    let y : FlowId := ⟨"olly-a7b2c4d1", by decide +kernel⟩
    x.identity "olly" = y.identity "olly" ∧ x ≠ y ∧ ∀ suffix, ¬ IsStamped "olly" suffix y.text := by
  intro x y
  have hsuffix : IsSuffix "a7b2c4d1" := by decide +kernel
  have hy : y.text = "olly" ++ "-" ++ "a7b2c4d1" := by decide +kernel
  exact ⟨by decide +kernel, by decide +kernel, fun suffix ↦ hy ▸ hsuffix.not_isStamped⟩

end FlowCorrelation
