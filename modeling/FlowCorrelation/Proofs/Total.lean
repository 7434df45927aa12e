import FlowCorrelation.Dict
import Mathlib.Algebra.Order.BigOperators.Group.List
import Mathlib.Algebra.Order.Ring.Nat

namespace FlowCorrelation.Dict

variable {β γ : Type} {d : Dict β} {f : β → Nat}

def total (f : β → Nat) (d : Dict β) : Nat := (d.values.map f).sum

@[simp] theorem total_empty (f : β → Nat) : (∅ : Dict β).total f = 0 := rfl

theorem sum_insertEntry (f : β → Nat) (k : String) (v : β) {es : List (String × β)}
    (h : es.Pairwise (fun a b ↦ a.1 < b.1)) :
    ((insertEntry k v es).map (fun e ↦ f e.2)).sum +
        (((es.find? (fun e ↦ e.1 = k)).map Prod.snd).map f).getD 0 =
      (es.map (fun e ↦ f e.2)).sum + f v := by
  induction es with
  | nil => simp [insertEntry]
  | cons a r ih =>
    obtain ⟨ha, hr⟩ := List.pairwise_cons.1 h
    simp only [insertEntry]
    split
    · rename_i hlt
      have hnone : (a :: r).find? (fun e ↦ e.1 = k) = none := by
        apply find?_eq_none_of_lt
        intro e he
        rcases List.mem_cons.1 he with rfl | he
        · exact hlt
        · exact String.lt_trans hlt (ha e he)
      simp only [hnone, List.map_cons, List.sum_cons, Option.map_none, Option.getD_none]
      omega
    · split
      · rename_i _ heq
        simp only [heq, List.map_cons, List.sum_cons, List.find?_cons, decide_true, Option.map_some,
          Option.getD_some]
        omega
      · rename_i _ hne
        have hrest := ih hr
        simp only [List.map_cons, List.sum_cons, List.find?_cons, Ne.symm hne, decide_false]
        omega

theorem total_insert (f : β → Nat) (d : Dict β) (k : String) (v : β) :
    (d.insert k v).total f + ((d.get? k).map f).getD 0 = d.total f + f v := by
  have h := sum_insertEntry f k v d.ascending
  simpa only [total, values, insert, get?, List.map_map, Function.comp_def] using h

theorem total_filter {p : String → β → Bool} (h : ∀ k v, p k v = false → f v = 0) :
    (d.filter p).total f = d.total f := by
  simp only [total, values, filter, List.map_map, Function.comp_def]
  induction d.entries with
  | nil => rfl
  | cons e es ih =>
    cases hp : p e.1 e.2 with
    | true => simp [hp, ih]
    | false => simp [hp, ih, h e.1 e.2 hp]

theorem total_map_congr {f' : γ → Nat} {g : String → β → γ} (h : ∀ k v, f' (g k v) = f v) :
    (d.map g).total f' = d.total f := by
  simp only [total, values, map, List.map_map, Function.comp_def, h]

theorem total_map_le {f' : γ → Nat} {g : String → β → γ} (h : ∀ k v, f' (g k v) ≤ f v) :
    (d.map g).total f' ≤ d.total f := by
  simp only [total, values, map, List.map_map, Function.comp_def]
  exact List.sum_le_sum (fun e _ ↦ h e.1 e.2)

end FlowCorrelation.Dict
