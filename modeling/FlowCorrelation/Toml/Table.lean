import FlowCorrelation.Json.Basic

namespace FlowCorrelation.Toml

inductive TableKind where
  | opened
  | implied
  | dotted
deriving DecidableEq, Repr

/-- What stands under a key: a value, a table, or a list of tables of which the last is open. -/
inductive Node where
  | value (j : Json)
  | table (kind : TableKind) (members : List (String × Node))
  | tables (items : List (List (String × Node)))

abbrev Table := List (String × Node)

namespace Table

def get? (t : Table) (key : String) : Option Node := (t.find? (fun e ↦ e.1 = key)).map Prod.snd

/-- Puts a node in place of the one under a key, or last. -/
def set (t : Table) (key : String) (n : Node) : Table :=
  if t.any (fun e ↦ e.1 = key) then t.map (fun e ↦ if e.1 = key then (key, n) else e)
  else t ++ [(key, n)]

def onLast (f : Table → Option Table) (items : List Table) : Option (List Table) :=
  match items.getLast? with
  | none => none
  | some t => (f t).map (fun t ↦ items.dropLast ++ [t])

/-- Adds the value of a dotted key. It may go into tables that dotted keys made, and through those
that headers implied. -/
def addEntry : Table → List String → String → Json → Option Table
  | t, [], key, v => if (t.get? key).isSome then none else some (t ++ [(key, .value v)])
  | t, p :: path, key, v =>
    match t.get? p with
    | none => (addEntry [] path key v).map (fun u ↦ t.set p (.table .dotted u))
    | some (.table .dotted u) => (addEntry u path key v).map (fun u ↦ t.set p (.table .dotted u))
    | some (.table .implied u) =>
      if path.isEmpty then none
      else (addEntry u path key v).map (fun u ↦ t.set p (.table .implied u))
    | some (.tables items) =>
      if path.isEmpty then none
      else (onLast (fun u ↦ addEntry u path key v) items).map (fun l ↦ t.set p (.tables l))
    | _ => none

def descend (f : Table → String → Option Table) : Table → List String → Option Table
  | _, [] => none
  | t, [key] => f t key
  | t, p :: q :: path =>
    match t.get? p with
    | none => (descend f [] (q :: path)).map (fun u ↦ t.set p (.table .implied u))
    | some (.table kind u) => (descend f u (q :: path)).map (fun u ↦ t.set p (.table kind u))
    | some (.tables items) =>
      (onLast (fun u ↦ descend f u (q :: path)) items).map (fun l ↦ t.set p (.tables l))
    | some (.value _) => none

def openTable (fill : Table → Option Table) (t : Table) (key : String) : Option Table :=
  match t.get? key with
  | none => (fill []).map (fun u ↦ t.set key (.table .opened u))
  | some (.table .implied u) => (fill u).map (fun u ↦ t.set key (.table .opened u))
  | _ => none

def openItem (fill : Table → Option Table) (t : Table) (key : String) : Option Table :=
  match t.get? key with
  | none => (fill []).map (fun u ↦ t.set key (.tables [u]))
  | some (.tables items) => (fill []).map (fun u ↦ t.set key (.tables (items ++ [u])))
  | _ => none

mutual

def membersOf : List (String × Node) → Json.Members
  | [] => []
  | (key, n) :: t => (key, nodeOf n) :: membersOf t

def nodeOf : Node → Json
  | .value j => j
  | .table _ t => .object (membersOf t)
  | .tables items => .list (itemsOf items)

def itemsOf : List (List (String × Node)) → List Json
  | [] => []
  | t :: l => .object (membersOf t) :: itemsOf l

end

end Table

end FlowCorrelation.Toml
