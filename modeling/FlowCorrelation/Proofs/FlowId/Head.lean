import FlowCorrelation.Proofs.FlowId.Canonical
import FlowCorrelation.Settings.Check
import Mathlib.Algebra.Group.Nat.Defs

namespace FlowCorrelation

namespace Base36

theorem length_digits_le_iff {n k : Nat} : (digits n).length ≤ k ↔ n < 36 ^ k := by
  induction n using digits.induct generalizing k with
  | case1 =>
    rw [digits, if_pos rfl]
    exact iff_of_true (Nat.zero_le k) (Nat.pow_pos (by decide))
  | case2 n hn ih =>
    rw [digits, if_neg hn, List.length_append, List.length_singleton]
    cases k with
    | zero => simp [hn]
    | succ k => rw [Nat.succ_le_succ_iff, ih, Nat.div_lt_iff_lt_mul (by decide), Nat.pow_succ]

theorem length_render_le_iff {n k : Nat} (hk : 0 < k) : (render n).length ≤ k ↔ n < 36 ^ k := by
  unfold render
  split
  · rename_i hn
    rw [hn]
    exact iff_of_true hk (Nat.pow_pos (by decide))
  · exact length_digits_le_iff

theorem isIdChar_of_isDigit {c : Char} (h : isDigit c) : isIdChar c := by
  simp only [isDigit, Bool.or_eq_true, Bool.and_eq_true, decide_eq_true_eq] at h
  rcases h with h | h
  · exact isIdChar_iff.2 (Or.inr (Or.inr (Or.inl h)))
  · exact isIdChar_iff.2 (Or.inr (Or.inl h))

end Base36

variable {head suffix : String} {l front back : List Char} {millis : Nat} {d : IdDefect}

theorem isChain_apart_of_dash_not_mem (h : '-' ∉ l) : l.IsChain Apart := by
  induction l with
  | nil => exact List.isChain_nil
  | cons a l ih =>
    rw [List.mem_cons, not_or] at h
    obtain ⟨ha, hl⟩ := h
    exact List.isChain_cons.2 ⟨fun _ _ hdashes ↦ ha hdashes.1.symm, ih hl⟩

theorem isChain_apart_append_dash (hfront : front.IsChain Apart) (hback : back.IsChain Apart)
    (hlast : front.getLast? ≠ some '-') (hfirst : back.head? ≠ some '-') :
    (front ++ '-' :: back).IsChain Apart := by
  refine List.isChain_append.2 ⟨hfront, List.isChain_cons.2 ⟨?_, hback⟩, ?_⟩
  · rintro b hb ⟨-, rfl⟩
    exact hfirst hb
  · rintro a ha b - ⟨rfl, -⟩
    exact hlast ha

theorem isIdHead_iff : isIdHead head ↔ idDefect? head = none ∧ head.toList.head? ≠ some '-' ∧
    head.toList.getLast? ≠ some '-' := by
  simp [isIdHead, and_assoc]

def stampLength (head : String) (millis : Nat) : Nat :=
  head.toList.length + (Base36.render millis).length + 10

/-- Whether what is stamped under a head is too long, and this is its defect. -/
def StampsTooLong (head : String) (millis : Nat) (d : IdDefect) : Prop :=
  maxIdLength < stampLength head millis ∧ d = .tooLong (stampLength head millis)

theorem length_stampText (head : String) (millis : Nat) (hs : IsSuffix suffix) :
    (stampText head millis suffix).toList.length = stampLength head millis := by
  rw [toList_stampText, stampLength]
  simp only [List.length_append, List.length_cons, hs.1]
  omega

theorem isIdChar_of_mem_stampText (hhead : isIdHead head) (millis : Nat) (hs : IsSuffix suffix) :
    ∀ c ∈ (stampText head millis suffix).toList, isIdChar c := by
  obtain ⟨hsound, -, -⟩ := isIdHead_iff.1 hhead
  obtain ⟨-, -, hall, -⟩ := idDefect?_eq_none_iff.1 hsound
  rw [toList_stampText]
  intro c hc
  simp only [List.mem_append, List.mem_cons] at hc
  rcases hc with hc | rfl | hc | rfl | hc
  · exact hall c hc
  · decide
  · exact Base36.isIdChar_of_isDigit (Base36.isDigit_of_mem_render hc)
  · decide
  · exact isIdChar_of_isHexDigit (List.all_eq_true.1 hs.2 c hc)

theorem isChain_apart_stampText (hhead : isIdHead head) (hs : IsSuffix suffix) :
    (stampText head millis suffix).toList.IsChain Apart := by
  obtain ⟨hsound, -, hlast⟩ := isIdHead_iff.1 hhead
  obtain ⟨-, -, -, hdashes⟩ := idDefect?_eq_none_iff.1 hsound
  have htime := Base36.dash_not_mem_render millis
  have hrest : (Base36.render millis ++ '-' :: suffix.toList).IsChain Apart :=
    isChain_apart_append_dash (isChain_apart_of_dash_not_mem htime)
      (isChain_apart_of_dash_not_mem hs.dash_not_mem)
      (fun h ↦ htime (List.mem_of_getLast? h)) (fun h ↦ hs.dash_not_mem (List.mem_of_head? h))
  have hfirst : (Base36.render millis ++ '-' :: suffix.toList).head? ≠ some '-' := by
    obtain ⟨c, time, hrender⟩ := List.exists_cons_of_ne_nil (Base36.render_ne_nil millis)
    rw [hrender] at htime ⊢
    rintro h
    exact htime (by simpa using Or.inl (Option.some.inj h).symm)
  rw [toList_stampText]
  exact isChain_apart_append_dash (not_occursIn_dashes_iff.1 hdashes) hrest hlast hfirst

theorem idDefect?_stampText (hhead : isIdHead head) (hs : IsSuffix suffix) :
    idDefect? (stampText head millis suffix) =
      if maxIdLength < stampLength head millis then some (.tooLong (stampLength head millis))
      else none := by
  have hall := isIdChar_of_mem_stampText hhead millis hs
  have hlength := length_stampText head millis hs
  have hempty : stampText head millis suffix ≠ "" := by
    refine mt String.toList_eq_nil_iff.2 (List.ne_nil_of_length_pos ?_)
    rw [hlength, stampLength]
    omega
  split
  · rename_i hlong
    have hbytes : (stampText head millis suffix).utf8ByteSize = stampLength head millis := by
      rw [← hlength, ← utf8ByteSize_of_isIdChar hall, String.ofList_toList]
    simp [idDefect?, hempty, hbytes, hlong]
  · rename_i hshort
    exact idDefect?_eq_none_iff.2 ⟨hempty, hlength ▸ Nat.not_lt.1 hshort, hall,
      not_occursIn_dashes_iff.2 (isChain_apart_stampText hhead hs)⟩

namespace FlowId

theorem compose_eq_error_iff (hhead : isIdHead head) (hs : IsSuffix suffix) :
    compose head millis suffix = .error d ↔ StampsTooLong head millis d := by
  have htext : compose head millis suffix = parse (stampText head millis suffix) := rfl
  rw [htext, parse_eq_error_iff, idDefect?_stampText hhead hs, StampsTooLong]
  split <;> simp [*, eq_comm]

theorem compose_eq_ok_iff (hhead : isIdHead head) (hs : IsSuffix suffix) :
    (∃ id, compose head millis suffix = .ok id) ↔ stampLength head millis ≤ maxIdLength := by
  have herror (d : IdDefect) : compose head millis suffix = .error d ↔ StampsTooLong head millis d :=
    compose_eq_error_iff hhead hs
  cases hid : compose head millis suffix with
  | ok id =>
    have hshort : ¬ StampsTooLong head millis (.tooLong (stampLength head millis)) := by
      simp [← herror, hid]
    simpa [StampsTooLong] using hshort
  | error d => simpa using ((herror d).1 hid).1

end FlowId

/-- The heads that leave room for every time of 64 bits have no more than 77 characters. -/
theorem stampLength_le_iff_forall :
    (∀ millis < 2 ^ 64, stampLength head millis ≤ maxIdLength) ↔ head.toList.length ≤ 77 := by
  constructor
  · intro h
    have hlast := h (2 ^ 64 - 1) (by decide)
    have hdigits : ¬ (Base36.render (2 ^ 64 - 1)).length ≤ 12 := by
      rw [Base36.length_render_le_iff (by decide)]
      decide
    rw [stampLength, maxIdLength] at hlast
    omega
  · intro h millis hmillis
    have hdigits : (Base36.render millis).length ≤ 13 :=
      (Base36.length_render_le_iff (by decide)).2 (Nat.lt_trans hmillis (by decide))
    rw [stampLength, maxIdLength]
    omega

end FlowCorrelation
