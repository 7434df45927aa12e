import FlowCorrelation.Dict
import FlowCorrelation.Json.Basic

namespace FlowCorrelation.Json

def fields? (names : List String) : Json → Option Members
  | .object m => if Members.unique m names then some m else none
  | .list l => if l.length ≤ names.length then some (names.zip l) else none
  | _ => none

namespace Members

variable {α : Type}

def required (m : Members) (name : String) (read : Json → Option α) : Option α :=
  (m.get? name).bind read

def withDefault (m : Members) (name : String) (default : α) (read : Json → Option α) : Option α :=
  match m.get? name with
  | none => some default
  | some j => read j

def optional (m : Members) (name : String) (read : Json → Option α) : Option (Option α) :=
  m.withDefault name none (Json.optional read)

def ofOption (name : String) (write : α → Json) : Option α → Members
  | none => []
  | some a => [(name, write a)]

end Members

/-- A map from texts; of several values under one name the last counts. -/
def dict? {α : Type} (read : Json → Option α) : Json → Option (Dict α)
  | .object m => (m.mapM (fun e ↦ (read e.2).map (fun a ↦ (e.1, a)))).map Dict.ofList
  | _ => none

def ofDict {α : Type} (write : α → Json) (d : Dict α) : Json :=
  .object (d.entries.map (fun e ↦ (e.1, write e.2)))

def list? {α : Type} (read : Json → Option α) : Json → Option (List α)
  | .list l => l.mapM read
  | _ => none

def attributesField (name : String) (d : Dict String) : Members :=
  if d.isEmpty then [] else [(name, ofDict .text d)]

def isNull : Json → Bool
  | .null => true
  | _ => false

def isBare : Json → Bool
  | .null => true
  | .object [] => true
  | _ => false

/-- One of several names, given as a text or as an object with that one name and a value that
counts as nothing. -/
def choiceWith? {α : Type} (isNothing : Json → Bool) (table : List (String × α)) : Json → Option α
  | .text s => (table.find? (fun e ↦ e.1 = s)).map Prod.snd
  | .object [(s, j)] =>
    if isNothing j then (table.find? (fun e ↦ e.1 = s)).map Prod.snd else none
  | _ => none

def choice? {α : Type} (table : List (String × α)) : Json → Option α := choiceWith? isNull table

mutual

/-- The value with the members of every object in order of name, each name once; the last value
under a name counts. -/
def collapsed : Json → Json
  | .list l => .list (collapsedItems l)
  | .object m => ofDict id (Dict.ofList (collapsedMembers m))
  | j => j

def collapsedItems : List Json → List Json
  | [] => []
  | j :: l => collapsed j :: collapsedItems l

def collapsedMembers : List (String × Json) → List (String × Json)
  | [] => []
  | (name, j) :: m => (name, collapsed j) :: collapsedMembers m

end

end FlowCorrelation.Json
