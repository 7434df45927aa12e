import FlowCorrelation.Dict

namespace FlowCorrelation

structure CacheEntry (α : Type) where
  value : α
  inserted : Nat
deriving DecidableEq, Repr

structure TimedCache (α : Type) where
  ttlMs : Nat
  capacity : Nat
  entries : Dict (CacheEntry α) := ∅
  hits : Nat := 0
  misses : Nat := 0
deriving Repr

namespace TimedCache

variable {α : Type}

def isFresh (c : TimedCache α) (now : Nat) (e : CacheEntry α) : Bool := now - e.inserted < c.ttlMs

def peek? (c : TimedCache α) (now : Nat) (key : String) : Option α :=
  ((c.entries.get? key).filter (c.isFresh now)).map (·.value)

def get (c : TimedCache α) (now : Nat) (key : String) : TimedCache α × Option α :=
  match c.peek? now key with
  | some a => ({ c with hits := c.hits + 1 }, some a)
  | none => ({ c with entries := c.entries.erase key, misses := c.misses + 1 }, none)

def oldest? (d : Dict (CacheEntry α)) : Option String :=
  match d.entries with
  | [] => none
  | e :: l => some (l.foldl (fun best x ↦ if x.2.inserted < best.2.inserted then x else best) e).1

def evict (c : TimedCache α) (now : Nat) : TimedCache α :=
  let fresh := c.entries.filter (fun _ e ↦ c.isFresh now e)
  { c with entries :=
      if fresh.size < c.capacity then fresh
      else match oldest? fresh with
        | some key => fresh.erase key
        | none => fresh }

def isEnabled (c : TimedCache α) : Bool := c.capacity ≠ 0 && c.ttlMs ≠ 0

/-- Puts a value under a key, in place of an earlier one. -/
def insert (c : TimedCache α) (now : Nat) (key : String) (a : α) : TimedCache α :=
  if c.isEnabled then
    let c := if !c.entries.contains key && c.capacity ≤ c.entries.size then c.evict now else c
    { c with entries := c.entries.insert key ⟨a, now⟩ }
  else c

def invalidate (c : TimedCache α) (key : String) : TimedCache α :=
  { c with entries := c.entries.erase key }

def clear (c : TimedCache α) : TimedCache α := { c with entries := ∅ }

def size (c : TimedCache α) : Nat := c.entries.size

end TimedCache

end FlowCorrelation
