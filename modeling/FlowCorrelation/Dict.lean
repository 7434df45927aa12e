namespace FlowCorrelation

/-- A finite map from text keys, with its entries in strictly ascending order of key. -/
structure Dict (β : Type) where
  entries : List (String × β)
  ascending : entries.Pairwise (fun a b ↦ a.1 < b.1)

namespace Dict

variable {β γ : Type}

instance [BEq β] : BEq (Dict β) := ⟨fun a b ↦ a.entries == b.entries⟩

instance [Repr β] : Repr (Dict β) := ⟨fun d n ↦ reprPrec d.entries n⟩

theorem ext {d e : Dict β} (h : d.entries = e.entries) : d = e := by
  cases d; cases e; simp_all

instance [DecidableEq β] : DecidableEq (Dict β) := fun d e ↦
  if h : d.entries = e.entries then isTrue (ext h) else isFalse (fun hde ↦ h (hde ▸ rfl))

def empty : Dict β := ⟨[], List.Pairwise.nil⟩

instance : EmptyCollection (Dict β) := ⟨empty⟩
instance : Inhabited (Dict β) := ⟨empty⟩

def isEmpty (d : Dict β) : Bool := d.entries.isEmpty

def size (d : Dict β) : Nat := d.entries.length

def keys (d : Dict β) : List String := d.entries.map Prod.fst

def values (d : Dict β) : List β := d.entries.map Prod.snd

def get? (d : Dict β) (k : String) : Option β :=
  (d.entries.find? (fun e ↦ e.1 = k)).map Prod.snd

def contains (d : Dict β) (k : String) : Bool := (d.get? k).isSome

def insertEntry (k : String) (v : β) : List (String × β) → List (String × β)
  | [] => [(k, v)]
  | e :: r =>
    if k < e.1 then (k, v) :: e :: r
    else if k = e.1 then (k, v) :: r
    else e :: insertEntry k v r

theorem mem_insertEntry {k : String} {v : β} {l : List (String × β)} {e : String × β}
    (h : e ∈ insertEntry k v l) : e = (k, v) ∨ e ∈ l := by
  induction l with
  | nil => exact Or.inl (by simpa [insertEntry] using h)
  | cons a r ih =>
    simp only [insertEntry] at h
    split at h
    · simpa using h
    · split at h
      · rcases List.mem_cons.1 h with h | h
        · exact Or.inl h
        · exact Or.inr (List.mem_cons_of_mem _ h)
      · rcases List.mem_cons.1 h with h | h
        · exact Or.inr (h ▸ List.mem_cons_self)
        · exact (ih h).imp id (List.mem_cons_of_mem _)

theorem pairwise_insertEntry {k : String} {v : β} {l : List (String × β)}
    (h : l.Pairwise (fun a b ↦ a.1 < b.1)) :
    (insertEntry k v l).Pairwise (fun a b ↦ a.1 < b.1) := by
  induction l with
  | nil => simp [insertEntry]
  | cons a r ih =>
    obtain ⟨ha, hr⟩ := List.pairwise_cons.1 h
    simp only [insertEntry]
    split
    · rename_i hlt
      refine List.pairwise_cons.2 ⟨fun b hb ↦ ?_, h⟩
      rcases List.mem_cons.1 hb with rfl | hb
      · exact hlt
      · exact String.lt_trans hlt (ha b hb)
    · split
      · rename_i _ heq
        exact List.pairwise_cons.2 ⟨fun b hb ↦ by simpa [heq] using ha b hb, hr⟩
      · rename_i hnlt hne
        refine List.pairwise_cons.2 ⟨fun b hb ↦ ?_, ih hr⟩
        rcases mem_insertEntry hb with rfl | hb
        · exact Std.lt_of_le_of_ne (String.not_lt.1 hnlt) (Ne.symm hne)
        · exact ha b hb

/-- Binds `k` to `v`, in place of an earlier binding of `k`. -/
def insert (d : Dict β) (k : String) (v : β) : Dict β :=
  ⟨insertEntry k v d.entries, pairwise_insertEntry d.ascending⟩

def filter (p : String → β → Bool) (d : Dict β) : Dict β :=
  ⟨d.entries.filter (fun e ↦ p e.1 e.2), d.ascending.filter _⟩

def erase (d : Dict β) (k : String) : Dict β := d.filter (fun k' _ ↦ k' ≠ k)

def map (f : String → β → γ) (d : Dict β) : Dict γ :=
  ⟨d.entries.map (fun e ↦ (e.1, f e.1 e.2)), by
    simpa [List.pairwise_map] using d.ascending⟩

def update (d : Dict β) (k : String) (f : Option β → β) : Dict β := d.insert k (f (d.get? k))

def ofList (l : List (String × β)) : Dict β := l.foldl (fun d e ↦ d.insert e.1 e.2) empty

def ofNames (l : List String) : Dict Unit := ofList (l.map (fun s ↦ (s, ())))

@[simp] theorem entries_empty : (∅ : Dict β).entries = [] := rfl

@[simp] theorem get?_empty (k : String) : (∅ : Dict β).get? k = none := rfl

theorem find?_insertEntry (k l : String) (v : β) (es : List (String × β))
    (h : es.Pairwise (fun a b ↦ a.1 < b.1)) :
    ((insertEntry k v es).find? (fun e ↦ e.1 = l)).map Prod.snd =
      if k = l then some v else (es.find? (fun e ↦ e.1 = l)).map Prod.snd := by
  induction es with
  | nil => by_cases hkl : k = l <;> simp [insertEntry, hkl]
  | cons a r ih =>
    obtain ⟨ha, hr⟩ := List.pairwise_cons.1 h
    simp only [insertEntry]
    split
    · by_cases hkl : k = l <;> simp [hkl]
    · split
      · rename_i _ heq
        by_cases hkl : k = l
        · simp [hkl]
        · have : a.1 ≠ l := fun hal ↦ hkl (heq.trans hal)
          simp [hkl, this]
      · rename_i _ hne
        by_cases hal : a.1 = l
        · have : k ≠ l := fun hkl ↦ hne (hkl.trans hal.symm)
          simp [hal, this]
        · simp only [List.find?_cons, hal, decide_false]
          exact ih hr

theorem get?_insert (d : Dict β) (k l : String) (v : β) :
    (d.insert k v).get? l = if k = l then some v else d.get? l :=
  find?_insertEntry k l v d.entries d.ascending

@[simp] theorem get?_insert_self (d : Dict β) (k : String) (v : β) :
    (d.insert k v).get? k = some v := by simp [get?_insert]

theorem get?_insert_of_ne (d : Dict β) {k l : String} (h : k ≠ l) (v : β) :
    (d.insert k v).get? l = d.get? l := by simp [get?_insert, h]

theorem find?_and_key (p : String → β → Bool) (k : String) (es : List (String × β))
    (h : es.Pairwise (fun a b ↦ a.1 < b.1)) :
    (es.find? (fun e ↦ p e.1 e.2 && e.1 = k)).map Prod.snd =
      ((es.find? (fun e ↦ e.1 = k)).map Prod.snd).filter (p k) := by
  induction es with
  | nil => rfl
  | cons a r ih =>
    obtain ⟨ha, hr⟩ := List.pairwise_cons.1 h
    simp only [List.find?_cons]
    by_cases hak : a.1 = k
    · subst hak
      have hnone : r.find? (fun e ↦ p e.1 e.2 && e.1 = a.1) = none :=
        List.find?_eq_none.2 (fun e he hp ↦ String.lt_irrefl a.1 (by
          have heq : e.1 = a.1 := by simp_all
          simpa [heq] using ha e he))
      cases hp : p a.1 a.2 <;> simp [hp, hnone, Option.filter]
    · simpa [hak] using ih hr

theorem get?_filter (d : Dict β) (p : String → β → Bool) (k : String) :
    (d.filter p).get? k = (d.get? k).filter (p k) := by
  simpa [get?, filter, List.find?_filter] using find?_and_key p k d.entries d.ascending

theorem get?_map (d : Dict β) (f : String → β → γ) (k : String) :
    (d.map f).get? k = (d.get? k).map (f k) := by
  have h (es : List (String × β)) :
      ((es.map (fun e ↦ (e.1, f e.1 e.2))).find? (fun e ↦ e.1 = k)).map Prod.snd =
        ((es.find? (fun e ↦ e.1 = k)).map Prod.snd).map (f k) := by
    induction es with
    | nil => rfl
    | cons a r ih => by_cases hak : a.1 = k <;> simp_all
  exact h d.entries

theorem find?_eq_none_of_lt {k : String} {es : List (String × β)} (h : ∀ e ∈ es, k < e.1) :
    es.find? (fun e ↦ e.1 = k) = none :=
  List.find?_eq_none.2 (fun e he hek ↦ by
    have heq : e.1 = k := by simpa using hek
    exact String.lt_irrefl k (heq ▸ h e he))

theorem entries_eq_of_find? {es fs : List (String × β)}
    (hes : es.Pairwise (fun a b ↦ a.1 < b.1)) (hfs : fs.Pairwise (fun a b ↦ a.1 < b.1))
    (h : ∀ k, (es.find? (fun e ↦ e.1 = k)).map Prod.snd =
      (fs.find? (fun e ↦ e.1 = k)).map Prod.snd) : es = fs := by
  induction es generalizing fs with
  | nil =>
    cases fs with
    | nil => rfl
    | cons b s => simpa using h b.1
  | cons a r ih =>
    obtain ⟨ha, hr⟩ := List.pairwise_cons.1 hes
    cases fs with
    | nil => simpa using h a.1
    | cons b s =>
      obtain ⟨hb, hs⟩ := List.pairwise_cons.1 hfs
      -- A key that comes before all of one list is not found there.
      have hab : ¬ a.1 < b.1 := fun hlt ↦ by
        have hnone : (b :: s).find? (fun e ↦ e.1 = a.1) = none :=
          find?_eq_none_of_lt (fun e he ↦ (List.mem_cons.1 he).elim (fun heq ↦ heq ▸ hlt)
            (fun he ↦ String.lt_trans hlt (hb e he)))
        simpa [hnone] using h a.1
      have hba : ¬ b.1 < a.1 := fun hlt ↦ by
        have hnone : (a :: r).find? (fun e ↦ e.1 = b.1) = none :=
          find?_eq_none_of_lt (fun e he ↦ (List.mem_cons.1 he).elim (fun heq ↦ heq ▸ hlt)
            (fun he ↦ String.lt_trans hlt (ha e he)))
        simpa [hnone] using h b.1
      have hkey : a.1 = b.1 := String.le_antisymm (String.not_lt.1 hba) (String.not_lt.1 hab)
      have hvalue : a.2 = b.2 := by simpa [hkey] using h a.1
      have hrest : r = s := by
        refine ih hr hs (fun k ↦ ?_)
        by_cases hk : a.1 = k
        · rw [find?_eq_none_of_lt (hk ▸ ha), find?_eq_none_of_lt (hk ▸ hkey ▸ hb)]
        · have hk' : b.1 ≠ k := hkey ▸ hk
          simpa [List.find?_cons, hk, hk'] using h k
      rw [Prod.ext hkey hvalue, hrest]

/-- Maps with the same bindings are equal. -/
theorem ext_get? {d e : Dict β} (h : ∀ k, d.get? k = e.get? k) : d = e :=
  ext (entries_eq_of_find? d.ascending e.ascending h)

theorem insert_eq_self {d : Dict β} {k : String} {v : β} (h : d.get? k = some v) :
    d.insert k v = d :=
  ext_get? (fun l ↦ by
    rw [get?_insert]
    split
    · rename_i hkl
      rw [← hkl, h]
    · rfl)

theorem filter_eq_self {d : Dict β} {p : String → β → Bool}
    (h : ∀ k v, d.get? k = some v → p k v) : d.filter p = d :=
  ext_get? (fun k ↦ by
    rw [get?_filter]
    cases hk : d.get? k with
    | none => rfl
    | some v => simp [Option.filter, h k v hk])

theorem mem_keys_iff {d : Dict β} {k : String} : k ∈ d.keys ↔ (d.get? k).isSome := by
  simp [keys, get?, List.find?_isSome]

theorem nodup_keys (d : Dict β) : d.keys.Nodup := by
  refine List.pairwise_map.2 (d.ascending.imp (fun h heq ↦ ?_))
  exact String.lt_irrefl _ (heq ▸ h)

@[simp] theorem length_keys (d : Dict β) : d.keys.length = d.size := by simp [keys, size]

end Dict

abbrev NameSet := Dict Unit

end FlowCorrelation
