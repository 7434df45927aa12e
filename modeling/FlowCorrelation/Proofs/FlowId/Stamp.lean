import FlowCorrelation.Enrichment.Digest
import FlowCorrelation.FlowId.Identity

namespace FlowCorrelation

theorem Base36.isDigit_digit {d : Nat} (h : d < 36) : isDigit (digit d) = true := by
  revert d; decide

theorem Base36.isDigit_of_mem_digits (n : Nat) : ∀ c ∈ digits n, isDigit c = true := by
  induction n using digits.induct with
  | case1 => simp [digits]
  | case2 n hn ih =>
    rw [digits, if_neg hn]
    intro c hc
    rcases List.mem_append.1 hc with hc | hc
    · exact ih c hc
    · rw [List.mem_singleton.1 hc]
      exact isDigit_digit (Nat.mod_lt n (by decide))

theorem Base36.isDigit_of_mem_render {n : Nat} {c : Char} (hc : c ∈ render n) :
    isDigit c = true := by
  unfold render at hc
  split at hc
  · rw [List.mem_singleton.1 hc]; decide
  · exact isDigit_of_mem_digits n c hc

theorem Base36.render_ne_nil (n : Nat) : render n ≠ [] := by
  unfold render
  split
  · simp
  · rename_i hn
    rw [digits, if_neg hn]
    simp

theorem Base36.dash_not_mem_render (n : Nat) : '-' ∉ render n := fun h ↦
  absurd (isDigit_of_mem_render h) (by decide)

theorem Digest.isHexDigit_hexDigit {n : Nat} (h : n < 16) : isHexDigit (hexDigit n) = true := by
  revert n; decide

/-- Eight hexadecimal digits, as they end a stamped id. -/
def IsSuffix (suffix : String) : Prop := suffix.toList.length = 8 ∧ suffix.toList.all isHexDigit

instance (suffix : String) : Decidable (IsSuffix suffix) :=
  inferInstanceAs (Decidable (suffix.toList.length = 8 ∧ suffix.toList.all isHexDigit))

theorem Digest.isHexDigit_of_mem_hex {bytes : List UInt8} {c : Char}
    (hc : c ∈ (hex bytes).toList) : isHexDigit c = true := by
  rw [hex, String.toList_ofList] at hc
  obtain ⟨b, -, hb⟩ := List.mem_flatMap.1 hc
  have hlt := b.toNat_lt
  rcases List.mem_cons.1 hb with rfl | hb
  · exact isHexDigit_hexDigit (by omega)
  · rw [List.mem_singleton.1 hb]
    exact isHexDigit_hexDigit (by omega)

theorem Digest.length_hex (bytes : List UInt8) : (hex bytes).toList.length = 2 * bytes.length := by
  rw [hex, String.toList_ofList]
  induction bytes with
  | nil => rfl
  | cons b l ih =>
    simp only [List.flatMap_cons, List.length_append, List.length_cons, List.length_nil, ih]
    omega

theorem Digest.isSuffix_hex_take {bytes : List UInt8} (h : 4 ≤ bytes.length) :
    IsSuffix (hex (bytes.take 4)) := by
  refine ⟨?_, List.all_eq_true.2 (fun _ ↦ isHexDigit_of_mem_hex)⟩
  rw [length_hex, List.length_take_of_le h]

variable {head suffix : String}

theorem IsSuffix.dash_not_mem (h : IsSuffix suffix) : '-' ∉ suffix.toList := fun hc ↦
  absurd (List.all_eq_true.1 h.2 '-' hc) (by decide)

theorem stampParts?_append (h : List Char) {time suffix : List Char} (ht : '-' ∉ time)
    (hs : '-' ∉ suffix) :
    stampParts? (h ++ '-' :: (time ++ '-' :: suffix)) = some (h, time, suffix) := by
  have houter := Text.splitLast_append (h ++ '-' :: time) hs
  have hinner := Text.splitLast_append h ht
  simp only [List.append_assoc, List.cons_append] at houter
  simp [stampParts?, houter, hinner]

def stampText (head : String) (millis : Nat) (suffix : String) : String :=
  head ++ "-" ++ String.ofList (Base36.render millis) ++ "-" ++ suffix

theorem toList_stampText (head : String) (millis : Nat) (suffix : String) :
    (stampText head millis suffix).toList =
      head.toList ++ '-' :: (Base36.render millis ++ '-' :: suffix.toList) := by
  simp [stampText, String.toList_append]

theorem identityKey_stampText (hhead : head ≠ "") (millis : Nat) (hs : IsSuffix suffix) :
    identityKey (stampText head millis suffix) head = head ++ "-" ++ suffix := by
  have hparts := stampParts?_append head.toList (Base36.dash_not_mem_render millis) hs.dash_not_mem
  have htime : (Base36.render millis).all Base36.isDigit :=
    List.all_eq_true.2 (fun _ ↦ Base36.isDigit_of_mem_render)
  have hcut : stampSuffix? head.toList (stampText head millis suffix).toList =
      some suffix.toList := by
    rw [toList_stampText, stampSuffix?, hparts]
    exact if_pos ⟨hs.1, hs.2, Base36.render_ne_nil millis, htime,
      mt String.toList_eq_nil_iff.1 hhead, rfl⟩
  simp only [identityKey, hcut, String.ofList_toList]

theorem FlowId.identity_of_compose {millis : Nat} {id : FlowId} (hhead : head ≠ "")
    (hs : IsSuffix suffix) (h : compose head millis suffix = .ok id) :
    id.identity head = head ++ "-" ++ suffix := by
  rw [identity, text_of_parse h]
  exact identityKey_stampText hhead millis hs

end FlowCorrelation
