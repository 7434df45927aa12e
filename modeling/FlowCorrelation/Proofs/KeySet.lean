import FlowCorrelation.Dict
import Mathlib.Data.Finset.Card
import Mathlib.Data.List.Nodup

namespace FlowCorrelation.Dict

variable {β : Type}

def keySet (d : Dict β) : Finset String := d.keys.toFinset

theorem mem_keySet {d : Dict β} {k : String} : k ∈ d.keySet ↔ (d.get? k).isSome := by
  rw [keySet, List.mem_toFinset, mem_keys_iff]

@[simp] theorem card_keySet (d : Dict β) : d.keySet.card = d.size := by
  rw [keySet, List.toFinset_card_of_nodup d.nodup_keys, length_keys]

theorem pairwise_keys (d : Dict β) : d.keys.Pairwise (· < ·) := List.pairwise_map.2 d.ascending

theorem mem_of_get?_foldl_insert {l : List (String × β)} {d : Dict β} {k : String} {v : β}
    (h : (l.foldl (fun d e ↦ d.insert e.1 e.2) d).get? k = some v) :
    (k, v) ∈ l ∨ d.get? k = some v := by
  induction l generalizing d with
  | nil => exact Or.inr h
  | cons e l ih =>
    rcases ih h with hmem | hget
    · exact Or.inl (List.mem_cons_of_mem _ hmem)
    · rw [get?_insert] at hget
      split at hget
      · rename_i hkey
        cases hget
        exact Or.inl (hkey ▸ List.mem_cons_self)
      · exact Or.inr hget

theorem mem_of_get?_ofList {l : List (String × β)} {k : String} {v : β}
    (h : (ofList l).get? k = some v) : (k, v) ∈ l :=
  (mem_of_get?_foldl_insert h).resolve_right nofun

theorem mem_entries_iff {d : Dict β} {k : String} {v : β} :
    (k, v) ∈ d.entries ↔ d.get? k = some v := by
  rw [get?, Option.map_eq_some_iff]
  constructor
  · intro h
    cases hfind : d.entries.find? (fun e ↦ e.1 = k) with
    | none => simpa using List.find?_eq_none.1 hfind (k, v) h
    | some e =>
      have hkey : e.1 = k := by simpa using List.find?_some hfind
      have he := List.inj_on_of_nodup_map d.nodup_keys (List.mem_of_find?_eq_some hfind) h hkey
      exact ⟨e, rfl, congrArg Prod.snd he⟩
  · rintro ⟨e, he, rfl⟩
    obtain rfl : e.1 = k := by simpa using List.find?_some he
    exact List.mem_of_find?_eq_some he

theorem keySet_insert (d : Dict β) (k : String) (v : β) :
    (d.insert k v).keySet = Insert.insert k d.keySet := by
  ext l
  rw [Finset.mem_insert, mem_keySet, mem_keySet, get?_insert]
  by_cases h : k = l
  · simp [h]
  · simp [h, Ne.symm h]

theorem contains_update {d : Dict β} {k l : String} {f : Option β → β} :
    (d.update k f).contains l ↔ k = l ∨ d.contains l := by
  rw [contains, update, get?_insert]
  by_cases h : k = l <;> simp [h, contains]

theorem keySet_ofNames (l : List String) : (ofNames l).keySet = l.toFinset := by
  have h (d : Dict Unit) : ((l.map (fun s ↦ (s, ()))).foldl (fun d e ↦ d.insert e.1 e.2) d).keySet =
      d.keySet ∪ l.toFinset := by
    induction l generalizing d with
    | nil => simp
    | cons s l ih =>
      rw [List.map_cons, List.foldl_cons, ih, keySet_insert, List.toFinset_cons,
        Finset.insert_union, Finset.union_insert]
  exact (h ∅).trans (Finset.empty_union _)

theorem size_insert_of_contains {d : Dict β} {k : String} (h : d.contains k) (v : β) :
    (d.insert k v).size = d.size := by
  rw [← card_keySet, keySet_insert, Finset.insert_eq_of_mem (mem_keySet.2 h), card_keySet]

theorem size_insert_le (d : Dict β) (k : String) (v : β) : (d.insert k v).size ≤ d.size + 1 := by
  rw [← card_keySet, keySet_insert, ← card_keySet d]
  exact Finset.card_insert_le k d.keySet

theorem size_filter_le (d : Dict β) (p : String → β → Bool) : (d.filter p).size ≤ d.size :=
  List.length_filter_le _ d.entries

theorem size_filter_lt_iff {d : Dict β} {p : String → β → Bool} :
    (d.filter p).size < d.size ↔ ∃ k v, d.get? k = some v ∧ ¬ p k v := by
  refine List.length_filter_lt_length_iff_exists.trans ⟨?_, ?_⟩
  · rintro ⟨e, he, hp⟩
    exact ⟨e.1, e.2, mem_entries_iff.1 he, hp⟩
  · rintro ⟨k, v, hv, hp⟩
    exact ⟨(k, v), mem_entries_iff.2 hv, hp⟩

theorem size_erase_lt {d : Dict β} {k : String} {v : β} (h : d.get? k = some v) :
    (d.erase k).size < d.size :=
  size_filter_lt_iff.2 ⟨k, v, h, by simp⟩

end FlowCorrelation.Dict
