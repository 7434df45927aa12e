import FlowCorrelation.Proofs.KeySet
import FlowCorrelation.Proofs.Query.Cache

namespace FlowCorrelation.TimedCache

variable {α : Type} {c d : TimedCache α} {now : Nat} {key k : String} {a : α} {x : CacheEntry α}

def fresh (c : TimedCache α) (now : Nat) : Dict (CacheEntry α) :=
  c.entries.filter (fun _ e ↦ c.isFresh now e)

/-- Whether a key is bound and no entry was put in before its own. -/
def IsOldest (d : Dict (CacheEntry α)) (key : String) : Prop :=
  ∃ x, d.get? key = some x ∧ ∀ k y, d.get? k = some y → x.inserted ≤ y.inserted

inductive Evicts (c : TimedCache α) (now : Nat) : TimedCache α → Prop where
  | expired (hroom : (c.fresh now).size < c.capacity) : Evicts c now { c with entries := c.fresh now }
  | oldest (key : String) (hfull : c.capacity ≤ (c.fresh now).size)
      (hkey : IsOldest (c.fresh now) key) :
      Evicts c now { c with entries := (c.fresh now).erase key }

def isCrowded (c : TimedCache α) (key : String) : Bool :=
  !c.entries.contains key && c.capacity ≤ c.entries.size

/-- What a cache may be after a value was put under a key. -/
inductive Inserts (c : TimedCache α) (now : Nat) (key : String) (a : α) : TimedCache α → Prop where
  | off (h : c.isEnabled = false) : Inserts c now key a c
  | room (h : c.isEnabled = true) (hroom : c.isCrowded key = false) :
      Inserts c now key a { c with entries := c.entries.insert key ⟨a, now⟩ }
  | crowded (h : c.isEnabled = true) (hcrowded : c.isCrowded key = true) (d : TimedCache α)
      (hd : Evicts c now d) : Inserts c now key a { d with entries := d.entries.insert key ⟨a, now⟩ }

def older (e f : String × CacheEntry α) : String × CacheEntry α :=
  if f.2.inserted < e.2.inserted then f else e

theorem foldl_older_spec (l : List (String × CacheEntry α)) (e : String × CacheEntry α) :
    l.foldl older e ∈ e :: l ∧ ∀ y ∈ e :: l, (l.foldl older e).2.inserted ≤ y.2.inserted := by
  induction l generalizing e with
  | nil => simp
  | cons f l ih =>
    obtain ⟨hmem, hle⟩ := ih (older e f)
    have hchoice : older e f = e ∧ e.2.inserted ≤ f.2.inserted ∨
        older e f = f ∧ f.2.inserted ≤ e.2.inserted := by
      unfold older
      split
      · exact Or.inr ⟨rfl, by omega⟩
      · exact Or.inl ⟨rfl, by omega⟩
    simp only [List.foldl_cons, List.mem_cons, forall_eq_or_imp] at hmem hle ⊢
    rcases hchoice with ⟨heq, h⟩ | ⟨heq, h⟩
    · rw [heq] at hmem hle ⊢
      exact ⟨hmem.imp_right Or.inr, hle.1, hle.1.trans h, hle.2⟩
    · rw [heq] at hmem hle ⊢
      exact ⟨Or.inr hmem, hle.1.trans h, hle.1, hle.2⟩

theorem isOldest_of_oldest? {d : Dict (CacheEntry α)} (h : oldest? d = some key) :
    IsOldest d key := by
  unfold oldest? at h
  split at h
  · cases h
  · rename_i e l hentries
    obtain ⟨hmem, hle⟩ := foldl_older_spec l e
    rw [← hentries] at hmem hle
    obtain rfl := Option.some.inj h
    exact ⟨_, Dict.mem_entries_iff.1 hmem, fun k y hy ↦ hle (k, y) (Dict.mem_entries_iff.2 hy)⟩

theorem size_eq_zero_of_oldest? {d : Dict (CacheEntry α)} (h : oldest? d = none) : d.size = 0 := by
  unfold oldest? at h
  split at h
  · rename_i hentries
    rw [Dict.size, hentries, List.length_nil]
  · cases h

theorem evicts_evict (c : TimedCache α) (now : Nat) (h : 0 < c.capacity) :
    Evicts c now (c.evict now) := by
  unfold evict
  dsimp only
  split
  · rename_i hroom
    exact .expired hroom
  · rename_i hfull
    split
    · rename_i key hkey
      exact .oldest key (Nat.not_lt.1 hfull) (isOldest_of_oldest? hkey)
    · rename_i hnone
      have hempty := size_eq_zero_of_oldest? hnone
      omega

theorem isEnabled_iff : c.isEnabled = true ↔ 0 < c.capacity ∧ 0 < c.ttlMs := by
  simp [isEnabled, Nat.pos_iff_ne_zero]

theorem isCrowded_iff : c.isCrowded key = true ↔ c.entries.get? key = none ∧ c.capacity ≤ c.size := by
  simp [isCrowded, Dict.contains, size]

theorem insert_eq (c : TimedCache α) (now : Nat) (key : String) (a : α) :
    c.insert now key a = if c.isEnabled then
      let d := if c.isCrowded key then c.evict now else c
      { d with entries := d.entries.insert key ⟨a, now⟩ } else c := rfl

/-- A cache puts values in as `Inserts` says. -/
theorem inserts_insert (c : TimedCache α) (now : Nat) (key : String) (a : α) :
    c.Inserts now key a (c.insert now key a) := by
  rw [insert_eq]
  split
  · rename_i hon
    split
    · rename_i hcrowded
      exact .crowded hon hcrowded _ (c.evicts_evict now (isEnabled_iff.1 hon).1)
    · rename_i hroom
      exact .room hon (Bool.eq_false_of_not_eq_true hroom)
  · rename_i hoff
    exact .off (Bool.eq_false_of_not_eq_true hoff)

theorem get?_fresh (c : TimedCache α) (now : Nat) (k : String) :
    (c.fresh now).get? k = (c.entries.get? k).filter (c.isFresh now) :=
  Dict.get?_filter _ _ _

theorem Evicts.sameRules (h : Evicts c now d) :
    d.ttlMs = c.ttlMs ∧ d.capacity = c.capacity ∧ d.hits = c.hits ∧ d.misses = c.misses := by
  cases h <;> exact ⟨rfl, rfl, rfl, rfl⟩

theorem Inserts.sameRules (h : Inserts c now key a d) :
    d.ttlMs = c.ttlMs ∧ d.capacity = c.capacity ∧ d.hits = c.hits ∧ d.misses = c.misses := by
  cases h with
  | off => exact ⟨rfl, rfl, rfl, rfl⟩
  | room => exact ⟨rfl, rfl, rfl, rfl⟩
  | crowded _ _ d hd => exact hd.sameRules

theorem Inserts.eq_of_off (h : Inserts c now key a d) (hoff : c.isEnabled = false) : d = c := by
  cases h with
  | off => rfl
  | room hon => rw [hoff] at hon; cases hon
  | crowded hon => rw [hoff] at hon; cases hon

theorem Evicts.size_lt (h : Evicts c now d) (hsize : c.size ≤ c.capacity) : d.size < c.capacity := by
  cases h with
  | expired hroom => exact hroom
  | oldest key _ hkey =>
    obtain ⟨x, hx, -⟩ := hkey
    calc ((c.fresh now).erase key).size < (c.fresh now).size := Dict.size_erase_lt hx
      _ ≤ c.size := Dict.size_filter_le _ _
      _ ≤ c.capacity := hsize

theorem Inserts.size_le (h : Inserts c now key a d) (hsize : c.size ≤ c.capacity) :
    d.size ≤ c.capacity := by
  cases h with
  | off => exact hsize
  | room hon hroom =>
    by_cases hkey : c.entries.contains key
    · exact (Dict.size_insert_of_contains hkey _).trans_le hsize
    · have hlt : c.size < c.capacity := by
        simpa [isCrowded, hkey, size] using hroom
      exact (Dict.size_insert_le _ _ _).trans hlt
  | crowded _ _ d hd => exact (Dict.size_insert_le _ _ _).trans (hd.size_lt hsize)

theorem Evicts.get?_cases (h : Evicts c now d) (k : String) :
    d.entries.get? k = c.entries.get? k ∨ d.entries.get? k = none := by
  have hfresh : (c.fresh now).get? k = c.entries.get? k ∨ (c.fresh now).get? k = none := by
    rw [get?_fresh]
    cases c.entries.get? k with
    | none => exact Or.inl rfl
    | some x => cases hx : c.isFresh now x <;> simp [Option.filter, hx]
  cases h with
  | expired => exact hfresh
  | oldest key =>
    simp only [get?_erase]
    split
    · exact Or.inr rfl
    · exact hfresh

theorem Inserts.get?_self (h : Inserts c now key a d) (hon : c.isEnabled = true) :
    d.entries.get? key = some ⟨a, now⟩ := by
  cases h with
  | off hoff => rw [hoff] at hon; cases hon
  | room => exact Dict.get?_insert_self _ _ _
  | crowded => exact Dict.get?_insert_self _ _ _

theorem Inserts.get?_cases (h : Inserts c now key a d)
    (hk : ¬ (key = k ∧ c.isEnabled = true)) :
    d.entries.get? k = c.entries.get? k ∨ d.entries.get? k = none := by
  cases h with
  | off => exact Or.inl rfl
  | room hon => exact Or.inl (Dict.get?_insert_of_ne _ (fun hkey ↦ hk ⟨hkey, hon⟩) _)
  | crowded hon _ d hd =>
    simp only [Dict.get?_insert_of_ne _ (fun hkey ↦ hk ⟨hkey, hon⟩)]
    exact hd.get?_cases k

theorem Inserts.of_room (h : Inserts c now key a d)
    (hroom : c.entries.contains key ∨ c.size < c.capacity) (hk : k ≠ key) :
    d.entries.get? k = c.entries.get? k := by
  cases h with
  | off => rfl
  | room => exact Dict.get?_insert_of_ne _ hk.symm _
  | crowded _ hcrowded =>
    obtain ⟨hnew, hfull⟩ := isCrowded_iff.1 hcrowded
    rw [Dict.contains, hnew] at hroom
    simp only [Option.isSome_none, Bool.false_eq_true, false_or] at hroom
    omega

/-- A new key that comes into a full cache removes what has expired, or if nothing has, one of the
oldest entries. -/
theorem Inserts.of_full (h : Inserts c now key a d) (hon : c.isEnabled = true)
    (hnew : c.entries.get? key = none) (hfull : c.size = c.capacity) :
    ((∃ k x, c.entries.get? k = some x ∧ ¬ c.isFresh now x) ∧
        ∀ k ≠ key, d.entries.get? k = (c.entries.get? k).filter (c.isFresh now)) ∨
      ((∀ k x, c.entries.get? k = some x → c.isFresh now x) ∧ ∃ victim,
        IsOldest c.entries victim ∧
          ∀ k ≠ key, d.entries.get? k = if k = victim then none else c.entries.get? k) := by
  cases h with
  | off hoff => rw [hoff] at hon; cases hon
  | room _ hroom =>
    have hcrowded : c.isCrowded key = true := isCrowded_iff.2 ⟨hnew, hfull.ge⟩
    rw [hroom] at hcrowded
    cases hcrowded
  | crowded _ _ d hd =>
    have hget (k : String) (hk : k ≠ key) :
        (d.entries.insert key ⟨a, now⟩).get? k = d.entries.get? k :=
      Dict.get?_insert_of_ne _ hk.symm _
    cases hd with
    | expired hroom =>
      refine Or.inl ⟨?_, fun k hk ↦ (hget k hk).trans (c.get?_fresh now k)⟩
      exact Dict.size_filter_lt_iff.1 (hroom.trans_eq hfull.symm)
    | oldest victim hkept hvictim =>
      have hall : ∀ k x, c.entries.get? k = some x → c.isFresh now x := by
        intro k x hx
        by_contra hexpired
        have hlt : (c.fresh now).size < c.size := Dict.size_filter_lt_iff.2 ⟨k, x, hx, hexpired⟩
        omega
      have hfresh : c.fresh now = c.entries := Dict.filter_eq_self hall
      rw [hfresh] at hvictim
      refine Or.inr ⟨hall, victim, hvictim, fun k hk ↦ (hget k hk).trans ?_⟩
      rw [hfresh, get?_erase]

def victim? (c : TimedCache α) (now : Nat) (key : String) : Option String :=
  if c.isEnabled && c.isCrowded key && c.capacity ≤ (c.fresh now).size then oldest? (c.fresh now)
  else none

theorem get?_insert_of_spared (hk : k ≠ key) (hx : c.entries.get? k = some x)
    (hfresh : c.isFresh now x) (hspared : c.victim? now key ≠ some k) :
    (c.insert now key a).entries.get? k = some x := by
  have hkept : (c.fresh now).get? k = some x := by
    rw [get?_fresh, hx]
    exact if_pos hfresh
  rw [insert_eq]
  split
  · rename_i hon
    simp only [Dict.get?_insert_of_ne _ hk.symm]
    split
    · rename_i hcrowded
      unfold evict
      dsimp only
      split
      · exact hkept
      · rename_i hfull
        have hvictim : c.victim? now key = oldest? (c.fresh now) := by
          rw [victim?, if_pos]
          simp only [hon, hcrowded, Bool.and_self, Bool.true_and, decide_eq_true_eq]
          exact Nat.not_lt.1 hfull
        rw [hvictim] at hspared
        split
        · rename_i victim hold
          rw [get?_erase, if_neg]
          · exact hkept
          · rintro rfl
            exact hspared hold
        · exact hkept
    · exact hx
  · exact hx

end FlowCorrelation.TimedCache
