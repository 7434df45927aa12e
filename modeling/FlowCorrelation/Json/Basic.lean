import FlowCorrelation.Numeral.Word

namespace FlowCorrelation

inductive Json where
  | null
  | bool (b : Bool)
  | int (n : Int)
  | real (x : Float)
  | text (s : String)
  | list (items : List Json)
  | object (members : List (String × Json))
deriving Inhabited

namespace Json

abbrev Members := List (String × Json)

def Members.all (m : Members) (name : String) : List Json :=
  (m.filter (fun e ↦ e.1 = name)).map Prod.snd

def Members.get? (m : Members) (name : String) : Option Json :=
  (m.find? (fun e ↦ e.1 = name)).map Prod.snd

def Members.unique (m : Members) (names : List String) : Bool :=
  names.all (fun name ↦ (m.all name).length ≤ 1)

def asText? : Json → Option String
  | .text s => some s
  | _ => none

def asBool? : Json → Option Bool
  | .bool b => some b
  | _ => none

def asMembers? : Json → Option Members
  | .object m => some m
  | _ => none

/-- A number as a double; integers are converted. -/
def asFloat? : Json → Option Float
  | .int n => some (Float.ofInt n)
  | .real x => some x
  | _ => none

def asNat? (bits : Nat) : Json → Option Nat
  | .int n => if 0 ≤ n ∧ n.toNat < Nat.pow 2 bits then some n.toNat else none
  | _ => none

def asInt? : Json → Option Int
  | .int n => if Word.holds n then some n else none
  | _ => none

def optional {α : Type} (read : Json → Option α) : Json → Option (Option α)
  | .null => some none
  | j => (read j).map some

def ofFloat (x : Float) : Json := if x.isFinite then .real x else .null

def ofNat (n : Nat) : Json := .int n

def ofOption {α : Type} (f : α → Json) : Option α → Json
  | none => .null
  | some a => f a

end Json

end FlowCorrelation
