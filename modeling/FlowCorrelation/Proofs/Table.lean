import FlowCorrelation.Proofs.KeySet
import Mathlib.Data.List.Sort
import Mathlib.Data.Prod.Lex
import Mathlib.Data.String.Basic

namespace FlowCorrelation.Dict

variable {β γ : Type} {d : Dict (Dict β)} {a b row column : String}

def cell? (d : Dict (Dict β)) (row column : String) : Option β :=
  (d.get? row).bind (·.get? column)

@[simp] theorem cell?_empty : (∅ : Dict (Dict β)).cell? row column = none := rfl

/-- Changing a cell, in a row that may be new, leaves all others as they are. -/
theorem cell?_update (f : Option β → β) :
    (d.update a (fun r ↦ (r.getD ∅).update b f)).cell? row column =
      if a = row ∧ b = column then some (f (d.cell? a b)) else d.cell? row column := by
  have hrow : ((d.get? a).getD ∅).get? b = d.cell? a b := by
    unfold cell?
    cases d.get? a <;> rfl
  by_cases ha : a = row
  · subst ha
    by_cases hb : b = column
    · simp [cell?, update, ← hb, hrow]
    · cases hget : d.get? a <;> simp [cell?, update, get?_insert, hb, hget]
  · simp [cell?, update, get?_insert, ha]

theorem mem_cells_iff {f : String → String × β → γ} {x : γ} :
    x ∈ d.entries.flatMap (fun e ↦ e.2.entries.map (f e.1)) ↔
      ∃ row column v, d.cell? row column = some v ∧ f row (column, v) = x := by
  simp only [List.mem_flatMap, List.mem_map, cell?, Option.bind_eq_some_iff]
  constructor
  · rintro ⟨⟨row, r⟩, hrow, ⟨column, v⟩, hcolumn, rfl⟩
    exact ⟨row, column, v, ⟨r, mem_entries_iff.1 hrow, mem_entries_iff.1 hcolumn⟩, rfl⟩
  · rintro ⟨row, column, v, ⟨r, hrow, hcolumn⟩, rfl⟩
    exact ⟨(row, r), mem_entries_iff.2 hrow, (column, v), mem_entries_iff.2 hcolumn, rfl⟩

theorem pairwise_cells (f : String → String × β → γ) (place : γ → String × String)
    (hplace : ∀ row e, place (f row e) = (row, e.1)) :
    (d.entries.flatMap (fun e ↦ e.2.entries.map (f e.1))).Pairwise
      (fun x y ↦ toLex (place x) < toLex (place y)) := by
  refine List.pairwise_flatMap.2 ⟨fun e _ ↦ List.pairwise_map.2 (e.2.ascending.imp ?_),
    d.ascending.imp ?_⟩
  · intro x y hlt
    rw [hplace, hplace]
    exact Prod.Lex.toLex_lt_toLex.2 (Or.inr ⟨rfl, hlt⟩)
  · intro e e' hlt x hx y hy
    obtain ⟨v, -, rfl⟩ := List.mem_map.1 hx
    obtain ⟨w, -, rfl⟩ := List.mem_map.1 hy
    rw [hplace, hplace]
    exact Prod.Lex.toLex_lt_toLex.2 (Or.inl hlt)

end FlowCorrelation.Dict

namespace FlowCorrelation

theorem eq_of_pairwise_lt {α ι : Type} [Preorder ι] {place : α → ι} {l l' : List α}
    (hl : l.Pairwise (fun x y ↦ place x < place y)) (hl' : l'.Pairwise (fun x y ↦ place x < place y))
    (h : ∀ x, x ∈ l ↔ x ∈ l') : l = l' := by
  have : Std.Antisymm (fun x y ↦ place x < place y) := ⟨fun _ _ hlt hgt ↦ absurd hgt hlt.asymm⟩
  have : Std.Irrefl (fun x y ↦ place x < place y) := ⟨fun _ ↦ lt_irrefl _⟩
  exact hl.eq_of_mem_iff hl' h

end FlowCorrelation
