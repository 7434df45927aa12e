import FlowCorrelation.FlowStore
import Mathlib.Data.List.Perm.Subperm

namespace FlowCorrelation

namespace RecordIndex

variable {α : Type}

theorem under_push (d : RecordIndex α) (key k : String) (a : α) :
    (d.push key a).under k = if key = k then d.under k ++ [a] else d.under k := by
  by_cases h : key = k
  · subst h; simp [under, push, Dict.update]
  · simp [under, push, Dict.update, Dict.get?_insert, h]

end RecordIndex

namespace FlowStore

variable (s : FlowStore) (r : Record) (kind : RecordKind) (key : String)

def kept : List Record :=
  match kind with
  | .span => (s.spans.under key).map .span
  | .log => (s.logs.under key).map .log
  | .metric => (s.metrics.under key).map .metric

/-- The records of a kind that are fetched for an id. -/
def recordsOf (id : FlowId) : List Record :=
  match kind with
  | .span => (s.spansOf id).map .span
  | .log => (s.logsOf id).map .log
  | .metric => (s.metricsOf id).map .metric

theorem recordsOf_eq (id : FlowId) :
    s.recordsOf kind id = chronological Record.timestamp (s.kept kind (id.identity s.head)) := by
  cases kind <;> exact List.map_mergeSort (fun _ _ _ _ ↦ rfl)

theorem recordsOf_perm (id : FlowId) :
    (s.recordsOf kind id).Perm (s.kept kind (id.identity s.head)) := by
  rw [recordsOf_eq]
  exact chronological_perm _ _

@[simp] theorem head_insert : (s.insert r).head = s.head := by
  unfold insert put
  cases s.keyOf r <;> cases r <;> rfl

@[simp] theorem attributeName_insert : (s.insert r).attributeName = s.attributeName := by
  unfold insert put
  cases s.keyOf r <;> cases r <;> rfl

theorem kept_put (k : String) :
    (s.put k r).kept kind key = if k = key ∧ r.kind = kind then s.kept kind key ++ [r]
      else s.kept kind key := by
  cases r <;> cases kind <;> by_cases hk : k = key <;>
    simp [put, kept, Record.kind, RecordIndex.under_push, hk]

def belongs : Bool := s.keyOf r = some key ∧ r.kind = kind

theorem kept_insert :
    (s.insert r).kept kind key =
      if s.belongs r kind key then s.kept kind key ++ [r] else s.kept kind key := by
  unfold insert
  cases hk : s.keyOf r with
  | none => simp [belongs, hk]; rfl
  | some k => simp [belongs, hk, kept_put]

theorem belongs_insert (r' : Record) : (s.insert r').belongs r kind key = s.belongs r kind key := by
  simp [belongs, keyOf]

theorem mem_recordsOf_insert (id : FlowId) :
    r ∈ (s.insert r).recordsOf r.kind id ↔
      s.keyOf r = some (id.identity s.head) ∨ r ∈ s.recordsOf r.kind id := by
  rw [(recordsOf_perm _ _ _).mem_iff, (recordsOf_perm _ _ _).mem_iff, head_insert, kept_insert]
  by_cases hkey : s.keyOf r = some (id.identity s.head) <;> simp [belongs, hkey]

@[simp] theorem head_insertAll (l : List Record) : (s.insertAll l).head = s.head := by
  induction l generalizing s with
  | nil => rfl
  | cons r l ih => exact (ih (s.insert r)).trans (s.head_insert r)

/-- Under a key stands what stood there before, followed by what belongs there among the new. -/
theorem kept_insertAll (l : List Record) :
    (s.insertAll l).kept kind key = s.kept kind key ++ l.filter (s.belongs · kind key) := by
  induction l generalizing s with
  | nil => simp [insertAll]
  | cons r l ih =>
    have h := ih (s.insert r)
    simp only [belongs_insert, kept_insert] at h
    rw [List.filter_cons]
    refine h.trans ?_
    split <;> simp

variable {s r kind}

theorem insert_of_carriedId {raw : String} (h : r.carriedId s.attributeName = some raw) :
    s.insert r = s.put (identityKey raw s.head) r := by
  simp [insert, keyOf, h]

theorem keyOf_of_attribute {raw : String} (h : r.attributes.get? s.attributeName = some raw) :
    s.keyOf r = some (identityKey raw s.head) := by
  simp [keyOf, Record.carriedId, h]

/-- Records that have one key are all fetched by an id with this key, each as often as it was
added. -/
theorem subperm_recordsOf_insertAll {l added : List Record} {id : FlowId} (hl : l.Subperm added)
    (hkey : ∀ r ∈ l, s.keyOf r = some (id.identity s.head)) :
    (l.filter (·.kind = kind)).Subperm ((s.insertAll added).recordsOf kind id) := by
  have hbelongs : l.filter (·.kind = kind) =
      l.filter (s.belongs · kind (id.identity s.head)) :=
    List.filter_congr (fun r hr ↦ by simp [belongs, hkey r hr])
  have hkept : (l.filter (·.kind = kind)).Subperm
      ((s.insertAll added).kept kind (id.identity s.head)) := by
    rw [kept_insertAll, hbelongs]
    exact (hl.filter _).trans (List.sublist_append_right _ _).subperm
  have hperm := recordsOf_perm (s.insertAll added) kind id
  rw [head_insertAll] at hperm
  exact hkept.trans hperm.symm.subperm

end FlowStore

end FlowCorrelation
