import FlowCorrelation.Query.Cache

namespace FlowCorrelation.TimedCache

variable {α : Type} {c : TimedCache α} {now : Nat} {key k : String} {a : α} {x : CacheEntry α}

theorem get_of_hit (h : c.peek? now key = some a) :
    c.get now key = ({ c with hits := c.hits + 1 }, some a) := by
  simp only [get, h]

theorem get_of_miss (h : c.peek? now key = none) : c.get now key =
    ({ c with entries := c.entries.erase key, misses := c.misses + 1 }, none) := by
  simp only [get, h]

/-- What is served under a key is the value of a fresh entry. -/
theorem peek?_eq_some_iff : c.peek? now key = some a ↔
    ∃ x, c.entries.get? key = some x ∧ c.isFresh now x ∧ x.value = a := by
  simp only [peek?, Option.map_eq_some_iff, Option.filter_eq_some_iff, and_assoc]

theorem get_eq_some_iff : (c.get now key).2 = some a ↔
    ∃ x, c.entries.get? key = some x ∧ c.isFresh now x ∧ x.value = a := by
  rw [← peek?_eq_some_iff]
  cases hpeek : c.peek? now key with
  | some b => rw [get_of_hit hpeek]
  | none => rw [get_of_miss hpeek]

theorem get?_erase (d : Dict (CacheEntry α)) (key k : String) :
    (d.erase key).get? k = if k = key then none else d.get? k := by
  rw [Dict.erase, Dict.get?_filter]
  split
  · cases d.get? k <;> simp [Option.filter, *]
  · cases d.get? k <;> simp [Option.filter, *]

theorem of_get?_erase {d : Dict (CacheEntry α)} (h : (d.erase key).get? k = some x) :
    d.get? k = some x := by
  rw [get?_erase] at h
  split at h
  · cases h
  · exact h

theorem ne_of_get?_erase {d : Dict (CacheEntry α)} (h : (d.erase key).get? k = some x) :
    k ≠ key := by
  rintro rfl
  rw [get?_erase, if_pos rfl] at h
  cases h

theorem of_get?_filter {d : Dict (CacheEntry α)} {p : String → CacheEntry α → Bool}
    (h : (d.filter p).get? k = some x) : d.get? k = some x := by
  rw [Dict.get?_filter] at h
  exact (Option.filter_eq_some_iff.1 h).1

theorem of_get?_evict (h : (c.evict now).entries.get? k = some x) :
    c.entries.get? k = some x := by
  simp only [evict] at h
  split at h
  · exact of_get?_filter h
  · split at h
    · exact of_get?_filter (of_get?_filter h)
    · exact of_get?_filter h

theorem of_get?_insert (h : (c.insert now key a).entries.get? k = some x) :
    (k = key ∧ x = ⟨a, now⟩) ∨ c.entries.get? k = some x := by
  simp only [insert] at h
  split at h
  · rw [Dict.get?_insert] at h
    split at h
    · rename_i hk
      exact Or.inl ⟨hk.symm, (Option.some.inj h).symm⟩
    · split at h
      · exact Or.inr (of_get?_evict h)
      · exact Or.inr h
  · exact Or.inr h

end FlowCorrelation.TimedCache
