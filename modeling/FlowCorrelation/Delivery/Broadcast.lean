namespace FlowCorrelation

structure Broadcast (α : Type) where
  capacity : Nat
  /-- The messages that are kept, in the order in which they were sent. -/
  kept : List α := []
  /-- How many messages were ever sent. -/
  sent : Nat := 0
deriving Repr

inductive Received (α : Type) where
  | missed (count : Nat)
  | message (a : α)
deriving Repr

namespace Broadcast

variable {α : Type}

/-- A broadcast that keeps at least so many messages: the next power of two. -/
def ofSize (n : Nat) : Broadcast α := { capacity := (max n 1).nextPowerOfTwo }

def send (b : Broadcast α) (a : α) : Broadcast α :=
  let l := b.kept ++ [a]
  { b with kept := l.drop (l.length - b.capacity), sent := b.sent + 1 }

def pending (b : Broadcast α) (seen : Nat) : List (Received α) :=
  let unseen := b.sent - seen
  let missed := unseen - b.kept.length
  (if missed = 0 then [] else [.missed missed]) ++
    (b.kept.drop (b.kept.length - unseen)).map .message

end Broadcast

end FlowCorrelation
