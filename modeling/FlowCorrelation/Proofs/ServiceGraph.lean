import FlowCorrelation.Proofs.KeySet
import FlowCorrelation.ServiceGraph
import Mathlib.Data.List.Sort

namespace FlowCorrelation

namespace Dict

variable {β : Type} {d : Dict β} {k l : String}

theorem contains_iff_mem_keys : d.contains k ↔ k ∈ d.keys := by rw [contains, mem_keys_iff]

theorem contains_insert {v : β} : (d.insert k v).contains l ↔ k = l ∨ d.contains l :=
  contains_update (f := fun _ ↦ v)

theorem keys_eq_of_mem_iff {names : List String} (hnames : names.Pairwise (· < ·))
    (h : ∀ k, k ∈ d.keys ↔ k ∈ names) : d.keys = names :=
  d.pairwise_keys.eq_of_mem_iff hnames h

end Dict

namespace ServiceGraph

variable {g : ServiceGraph} {c : FlowContext} {a b name source target : String}

theorem mem_services : name ∈ g.services ↔ g.nodes.contains name := Dict.contains_iff_mem_keys.symm

theorem mem_services_addService :
    name ∈ (g.addService source).services ↔ source = name ∨ name ∈ g.services := by
  rw [mem_services, mem_services, addService, Dict.contains_insert]

theorem mem_services_addCall : name ∈ (g.addCall source target).services ↔
    source = name ∨ target = name ∨ name ∈ g.services := by
  rw [mem_services, mem_services, addCall, Dict.contains_insert, Dict.contains_insert,
    or_left_comm]

@[simp] theorem hasCall_addService : (g.addService name).hasCall a b = g.hasCall a b := rfl

theorem hasCall_addCall : (g.addCall source target).hasCall a b ↔
    (source = a ∧ target = b) ∨ g.hasCall a b := by
  rw [hasCall, hasCall, addCall, Dict.update, Dict.get?_insert]
  by_cases ha : source = a
  · subst ha
    rw [if_pos rfl, Option.any_some, Dict.contains_insert]
    cases g.calls.get? source <;> simp [Dict.contains]
  · simp [ha]

theorem mem_services_foldl_addService {l : List String} :
    name ∈ (l.foldl addService g).services ↔ name ∈ l ∨ name ∈ g.services := by
  induction l generalizing g with
  | nil => simp
  | cons s l ih =>
    rw [List.foldl_cons, ih, mem_services_addService, List.mem_cons, eq_comm (a := s), or_left_comm,
      or_assoc]

theorem hasCall_foldl_addService {l : List String} :
    (l.foldl addService g).hasCall a b = g.hasCall a b := by
  induction l generalizing g with
  | nil => rfl
  | cons s l ih => rw [List.foldl_cons, ih, hasCall_addService]

theorem mem_services_foldl_addCall {K : Type} {l : List (ServiceCall K)} :
    name ∈ (l.foldl (fun g x ↦ g.addCall x.source x.target) g).services ↔
      (∃ x ∈ l, x.source = name ∨ x.target = name) ∨ name ∈ g.services := by
  induction l generalizing g with
  | nil => simp
  | cons x l ih =>
    rw [List.foldl_cons, ih, mem_services_addCall, List.exists_mem_cons_iff]
    simp only [or_assoc, or_left_comm]

theorem hasCall_foldl_addCall {K : Type} {l : List (ServiceCall K)} :
    (l.foldl (fun g x ↦ g.addCall x.source x.target) g).hasCall a b ↔
      (∃ x ∈ l, x.source = a ∧ x.target = b) ∨ g.hasCall a b := by
  induction l generalizing g with
  | nil => simp
  | cons x l ih =>
    rw [List.foldl_cons, ih, hasCall_addCall, List.exists_mem_cons_iff, or_left_comm, or_assoc]

theorem mem_services_ofContext : name ∈ (ofContext c).services ↔
    (∃ x ∈ c.calls, x.source = name ∨ x.target = name) ∨ name ∈ c.summary.services := by
  rw [ofContext, mem_services_foldl_addCall, mem_services_foldl_addService]
  simp [services, Dict.keys]

theorem hasCall_ofContext :
    (ofContext c).hasCall a b ↔ ∃ x ∈ c.calls, x.source = a ∧ x.target = b := by
  rw [ofContext, hasCall_foldl_addCall, hasCall_foldl_addService]
  simp [hasCall]

theorem mem_callees_iff : b ∈ g.callees a ↔ g.hasCall a b := by
  rw [callees, ← Dict.contains_iff_mem_keys, hasCall]
  cases g.calls.get? a <;> simp [Dict.contains]

theorem mem_callers_iff : a ∈ g.callers b ↔ g.hasCall a b := by
  rw [callers, List.mem_filter, and_iff_right_iff_imp]
  intro h
  obtain ⟨row, hrow, -⟩ := (Option.any_eq_true _ _).1 h
  exact Dict.mem_keys_iff.2 (hrow ▸ rfl)

end ServiceGraph

end FlowCorrelation
