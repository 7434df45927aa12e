import FlowCorrelation.Context.Basic
import Mathlib.Data.List.Basic

namespace FlowCorrelation

theorem mapM_eq_none_iff {α β : Type} {f : α → Option β} {l : List α} :
    l.mapM f = none ↔ ∃ a ∈ l, f a = none := by
  induction l with
  | nil => simp
  | cons a l ih =>
    have hcons : (a :: l).mapM f = none ↔ f a = none ∨ l.mapM f = none := by
      rw [List.mapM_cons]
      cases f a <;> cases l.mapM f <;> simp
    rw [hcons, ih, List.exists_mem_cons_iff]

theorem mapM_eq_some_iff {α β : Type} {f : α → Option β} {l : List α} {r : List β} :
    l.mapM f = some r ↔ l.map f = r.map some := by
  induction l generalizing r with
  | nil => cases r <;> simp
  | cons a l ih =>
    rw [List.mapM_cons, List.map_cons]
    cases r with
    | nil => cases f a <;> cases l.mapM f <;> simp
    | cons b r =>
      rw [List.map_cons, List.cons_eq_cons, ← ih]
      cases f a <;> cases l.mapM f <;> simp

theorem mapM_eq_some_map {α β : Type} {f : α → Option β} {g : α → β} {l : List α}
    (h : ∀ a ∈ l, f a = some (g a)) : l.mapM f = some (l.map g) := by
  rw [mapM_eq_some_iff, List.map_map]
  exact List.map_congr_left h

theorem mem_mapM_iff {α β : Type} {f : α → Option β} {l : List α} {r : List β}
    (h : l.mapM f = some r) {b : β} : b ∈ r ↔ ∃ a ∈ l, f a = some b := by
  rw [← List.mem_map, mapM_eq_some_iff.1 h]
  simp

theorem countP_of_mapM {α β : Type} {f : α → Option β} {l : List α} {r : List β}
    (h : l.mapM f = some r) (p : β → Bool) : r.countP p = l.countP (fun a ↦ (f a).any p) := by
  have hcount := congrArg (List.countP (Option.any p)) (mapM_eq_some_iff.1 h)
  rw [List.countP_map, List.countP_map] at hcount
  exact hcount.symm

theorem length_of_mapM {α β : Type} {f : α → Option β} {l : List α} {r : List β}
    (h : l.mapM f = some r) : r.length = l.length := by
  have hlength := congrArg List.length (mapM_eq_some_iff.1 h)
  rw [List.length_map, List.length_map] at hlength
  exact hlength.symm

theorem exists_of_mem_mapM {α β : Type} {f : α → Option β} {l : List α} {r : List β}
    (h : l.mapM f = some r) {a : α} (ha : a ∈ l) : ∃ b, f a = some b := by
  refine Option.ne_none_iff_exists'.1 (fun hnone ↦ ?_)
  rw [mapM_eq_none_iff.2 ⟨a, ha, hnone⟩] at h
  cases h

namespace Signals

variable {s : Signals} {now now' : Instant}

theorem ends?_eq_none_iff : s.ends? = none ↔ ∃ x ∈ s.spans, x.endTime? = none := by
  rw [ends?, Option.map_eq_none_iff, mapM_eq_none_iff]

theorem ne_nil_of_ends? {ends : List Instant} (hends : s.ends? = some ends)
    (h : s.spans ≠ [] ∨ s.logs ≠ []) : ends ≠ [] := by
  obtain ⟨l, hl, rfl⟩ := Option.map_eq_some_iff.1 hends
  rcases h with h | h
  · obtain ⟨x, spans, hspans⟩ := List.exists_cons_of_ne_nil h
    rw [hspans, List.mapM_cons] at hl
    obtain ⟨t, -, hl⟩ := Option.bind_eq_some_iff.1 hl
    obtain ⟨rest, -, hl⟩ := Option.bind_eq_some_iff.1 hl
    cases hl
    simp
  · simp [h]

theorem period?_congr (h : s.spans ≠ [] ∨ s.logs ≠ []) : s.period? now = s.period? now' := by
  have hstarts : s.starts ≠ [] := by
    rcases h with h | h <;> simp [starts, h]
  cases hends : s.ends? with
  | none => simp only [period?, hends, Option.map_none]
  | some ends =>
    obtain ⟨a, starts, hstarts⟩ := List.exists_cons_of_ne_nil hstarts
    obtain ⟨b, ends, rfl⟩ := List.exists_cons_of_ne_nil (ne_nil_of_ends? hends h)
    simp only [period?, hends, hstarts, Option.map_some]

end Signals

namespace FlowContext

variable {id : String} {s : Signals} {anomaly : AnomalySettings} {now : Instant}
  {c : FlowContext}

theorem assemble?_eq_none_iff :
    assemble? id s anomaly now = none ↔ ∃ x ∈ s.spans, x.endTime? = none := by
  rw [assemble?, Option.map_eq_none_iff, Signals.period?, Option.map_eq_none_iff,
    Signals.ends?_eq_none_iff]

theorem assemble?_rename (id id' : String) :
    assemble? id' s anomaly now = (assemble? id s anomaly now).map ({ · with id := id' }) := by
  simp only [assemble?, Option.map_map, Function.comp_def]

theorem assemble?_congr (now' : Instant) (h : s.spans ≠ [] ∨ s.logs ≠ []) :
    assemble? id s anomaly now = assemble? id s anomaly now' := by
  rw [assemble?, assemble?, Signals.period?_congr h]

theorem id_of_assemble? (h : assemble? id s anomaly now = some c) : c.id = id := by
  obtain ⟨period, -, rfl⟩ := Option.map_eq_some_iff.1 h
  rfl

theorem signals_of_assemble? (h : assemble? id s anomaly now = some c) : c.signals = s := by
  obtain ⟨period, -, rfl⟩ := Option.map_eq_some_iff.1 h
  rfl

theorem id_foldl_addWarning (l : List PartialDataWarning) (c : FlowContext) :
    (l.foldl addWarning c).id = c.id := by
  induction l generalizing c with
  | nil => rfl
  | cons w l ih => exact ih (c.addWarning w)

end FlowContext

end FlowCorrelation
