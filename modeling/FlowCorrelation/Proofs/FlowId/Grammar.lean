import FlowCorrelation.Proofs.FlowId.Stamp

namespace FlowCorrelation

open Text

variable {raw : String} {l l' : List Char} {c : Char}

theorem Text.occursIn_iff_isInfix {p : List Char} : occursIn p l ↔ p <:+: l := by
  induction l with
  | nil => simp [occursIn]
  | cons c l ih => simp [occursIn, ih, List.infix_cons_iff]

theorem isIdChar_iff : isIdChar c ↔ 'A' ≤ c ∧ c ≤ 'Z' ∨ 'a' ≤ c ∧ c ≤ 'z' ∨ '0' ≤ c ∧ c ≤ '9' ∨
    c = '-' ∨ c = '_' := by
  have h : isIdChar c = (decide ('A' ≤ c ∧ c ≤ 'Z') || ('a' ≤ c && c ≤ 'z') ||
    ('0' ≤ c && c ≤ '9') || c = '-' || c = '_') := rfl
  simp [h, or_assoc]

theorem toNat_lt_of_isIdChar (h : isIdChar c) : c.toNat < 0x80 := by
  obtain ⟨-, h⟩ | ⟨-, h⟩ | ⟨-, h⟩ | rfl | rfl := isIdChar_iff.1 h
  · exact Nat.lt_of_le_of_lt h (by decide)
  · exact Nat.lt_of_le_of_lt h (by decide)
  · exact Nat.lt_of_le_of_lt h (by decide)
  · decide
  · decide

theorem of_isIdChar {P : Char → Prop} (hP : ∀ n < 0x80, P (Char.ofNat n)) (h : isIdChar c) :
    P c := by
  have hc := hP c.toNat (toNat_lt_of_isIdChar h)
  rwa [Char.ofNat_toNat] at hc

theorem isControl_of_isIdChar (h : isIdChar c) : isControl c = false :=
  of_isIdChar (P := fun c ↦ isIdChar c → isControl c = false) (by decide) h h

theorem isIdChar_toLower (h : isIdChar c) : isIdChar c.toLower :=
  of_isIdChar (P := fun c ↦ isIdChar c → isIdChar c.toLower) (by decide) h h

theorem toLower_eq_dash_iff (h : isIdChar c) : c.toLower = '-' ↔ c = '-' :=
  of_isIdChar (P := fun c ↦ c.toLower = '-' ↔ c = '-') (by decide) h

theorem isIdChar_of_isHexDigit (h : isHexDigit c) : isIdChar c := by
  have hf : 'f' ≤ 'z' := by decide
  have hF : 'F' ≤ 'Z' := by decide
  simp only [isHexDigit, Bool.or_eq_true, Bool.and_eq_true, decide_eq_true_eq] at h
  rcases h with (h | ⟨h, h'⟩) | ⟨h, h'⟩
  · exact isIdChar_iff.2 (Or.inr (Or.inr (Or.inl h)))
  · exact isIdChar_iff.2 (Or.inr (Or.inl ⟨h, Char.le_trans h' hf⟩))
  · exact isIdChar_iff.2 (Or.inl ⟨h, Char.le_trans h' hF⟩)

theorem lowerFrom_of_isIdChar (before : Bool) (h : ∀ c ∈ l, isIdChar c) :
    lowerFrom before l = l.map Char.toLower := by
  induction l generalizing before with
  | nil => rfl
  | cons c l ih =>
    have hc := toNat_lt_of_isIdChar (h c List.mem_cons_self)
    have hdot : c.toNat ≠ 0x130 := by omega
    have hsigma : c.toNat ≠ 0x3A3 := by omega
    simp only [lowerFrom, hdot, hsigma, if_false, lowerChar, hc, if_true, List.map_cons]
    rw [ih _ (fun d hd ↦ h d (List.mem_cons_of_mem c hd))]

theorem utf8ByteSize_of_isIdChar (h : ∀ c ∈ l, isIdChar c) :
    (String.ofList l).utf8ByteSize = l.length := by
  induction l with
  | nil => rfl
  | cons c l ih =>
    have hc : c.utf8Size = 1 := Char.utf8Size_eq_one_iff.2 (UInt32.le_iff_toNat_le.2
      (Nat.le_of_lt_succ (toNat_lt_of_isIdChar (h c List.mem_cons_self))))
    have hsplit : String.ofList (c :: l) = String.singleton c ++ String.ofList l := by
      rw [← String.toList_inj]
      simp
    rw [hsplit, String.utf8ByteSize_append, String.utf8ByteSize_singleton, hc,
      ih (fun d hd ↦ h d (List.mem_cons_of_mem c hd)), List.length_cons, Nat.add_comm]

theorem isPrefixOf_dashes (l : List Char) :
    List.isPrefixOf ['-', '-'] l = List.isPrefixOf [true, true] (l.map (· == '-')) := by
  rcases l with _ | ⟨a, _ | ⟨b, l⟩⟩ <;>
    simp [List.isPrefixOf, Bool.beq_comm]

theorem occursIn_dashes_congr (h : l.map (· == '-') = l'.map (· == '-')) :
    occursIn ['-', '-'] l = occursIn ['-', '-'] l' := by
  induction l generalizing l' with
  | nil =>
    obtain rfl : l' = [] := by simpa using h.symm
    rfl
  | cons c l ih =>
    cases l' with
    | nil => simp at h
    | cons c' l' =>
      have htail : l.map (· == '-') = l'.map (· == '-') := (List.cons.inj h).2
      rw [occursIn, occursIn, isPrefixOf_dashes, isPrefixOf_dashes, h, ih htail]

theorem toList_lower_of_isIdChar (h : ∀ c ∈ raw.toList, isIdChar c) :
    (lower raw).toList = raw.toList.map Char.toLower := by
  rw [lower, String.toList_ofList, lowerFrom_of_isIdChar false h]

theorem eq_dashes_of_occursIn_lower (h : ∀ c ∈ raw.toList, isIdChar c) {m : String}
    (hm : m ∈ injectionMarkers) (hocc : occursIn m.toList (lower raw).toList) : m = "--" := by
  have hforeign : ∀ m ∈ injectionMarkers, m = "--" ∨ m.toList.any (!isIdChar ·) := by decide
  rcases hforeign m hm with hm' | hbad
  · exact hm'
  · obtain ⟨c, hc, hbad⟩ : ∃ c ∈ m.toList, ¬ isIdChar c := by simpa using hbad
    have hmem := (occursIn_iff_isInfix.1 hocc).subset hc
    rw [toList_lower_of_isIdChar h] at hmem
    obtain ⟨d, hd, rfl⟩ := List.mem_map.1 hmem
    exact absurd (isIdChar_toLower (h d hd)) hbad

theorem findMarker_eq_none_iff (h : ∀ c ∈ raw.toList, isIdChar c) :
    findMarker raw = none ↔ ¬ occursIn ['-', '-'] raw.toList := by
  have hdashes : occursIn ['-', '-'] (lower raw).toList = occursIn ['-', '-'] raw.toList := by
    apply occursIn_dashes_congr
    rw [toList_lower_of_isIdChar h, List.map_map]
    refine List.map_congr_left (fun c hc ↦ Bool.eq_iff_iff.2 ?_)
    simp [toLower_eq_dash_iff (h c hc)]
  simp only [findMarker, List.find?_eq_none]
  rw [← hdashes]
  constructor
  · intro hnone
    exact hnone "--" (by decide)
  · intro hnone m hm hocc
    obtain rfl := eq_dashes_of_occursIn_lower h hm hocc
    exact hnone hocc

/-- A text is an id if it has between one and a hundred characters of ids and no two dashes in a
row. -/
theorem idDefect?_eq_none_iff : idDefect? raw = none ↔ raw ≠ "" ∧
    raw.toList.length ≤ maxIdLength ∧ (∀ c ∈ raw.toList, isIdChar c) ∧
    ¬ occursIn ['-', '-'] raw.toList := by
  have hsize (h : ∀ c ∈ raw.toList, isIdChar c) : raw.utf8ByteSize = raw.toList.length := by
    rw [← utf8ByteSize_of_isIdChar h, String.ofList_toList]
  have hforeign : raw.toList.find? (fun c ↦ !isIdChar c) = none ↔ ∀ c ∈ raw.toList, isIdChar c := by
    simp
  constructor
  · intro h
    simp only [idDefect?] at h
    split at h
    · cases h
    rename_i hempty
    split at h
    · cases h
    rename_i hlong
    split at h
    · cases h
    split at h
    · cases h
    · rename_i hmarker
      have hall := hforeign.1 (Option.map_eq_none_iff.1 h)
      exact ⟨by simpa using hempty, hsize hall ▸ Nat.not_lt.1 hlong, hall,
        (findMarker_eq_none_iff hall).1 hmarker⟩
  · rintro ⟨hempty, hlong, hall, hdashes⟩
    have hlong' : ¬ maxIdLength < raw.utf8ByteSize := Nat.not_lt.2 (hsize hall ▸ hlong)
    have hcontrol : raw.toList.any isControl = false :=
      List.any_eq_false.2 (fun c hc ↦ by simp [isControl_of_isIdChar (hall c hc)])
    simp [idDefect?, hempty, hlong', hcontrol, (findMarker_eq_none_iff hall).2 hdashes,
      hforeign.2 hall]

variable {head suffix suffix' : String}

theorem IsSuffix.idDefect?_append (hs : IsSuffix suffix) (hs' : IsSuffix suffix') (front : String)
    (h : idDefect? (front ++ suffix) = none) : idDefect? (front ++ suffix') = none := by
  obtain ⟨-, hlong, hall, hdashes⟩ := idDefect?_eq_none_iff.1 h
  have hnone {s : String} (hs : IsSuffix s) : s.toList.map (· == '-') = List.replicate 8 false := by
    refine List.eq_replicate_iff.2 ⟨by simpa using hs.1, fun b hb ↦ ?_⟩
    obtain ⟨c, hc, rfl⟩ := List.mem_map.1 hb
    exact beq_false_of_ne (fun heq ↦ hs.dash_not_mem (heq ▸ hc))
  refine idDefect?_eq_none_iff.2 ⟨fun hempty ↦ ?_, ?_, fun c hc ↦ ?_, fun hocc ↦ hdashes ?_⟩
  · have hlist := congrArg (List.length ∘ String.toList) hempty
    simp [String.toList_append, hs'.1] at hlist
  · simpa [String.toList_append, hs.1, hs'.1] using hlong
  · rw [String.toList_append] at hc
    rcases List.mem_append.1 hc with hc | hc
    · exact hall c (by simp [String.toList_append, hc])
    · exact isIdChar_of_isHexDigit (List.all_eq_true.1 hs'.2 c hc)
  · -- A suffix has no dash, so the dashes stand in the same places.
    rw [← hocc]
    refine occursIn_dashes_congr ?_
    simp only [String.toList_append, List.map_append, hnone hs, hnone hs']

theorem FlowId.compose_ok_of_ok {millis : Nat} {id : FlowId} (hs : IsSuffix suffix)
    (hs' : IsSuffix suffix') (h : compose head millis suffix = .ok id) :
    ∃ id', compose head millis suffix' = .ok id' := by
  have hsound : idDefect? (stampText head millis suffix) = none := by
    have htext : id.text = stampText head millis suffix := text_of_parse h
    exact htext ▸ id.sound
  have hsound' := hs.idDefect?_append hs' _ hsound
  exact ⟨⟨_, hsound'⟩, parse_text ⟨_, hsound'⟩⟩

end FlowCorrelation
