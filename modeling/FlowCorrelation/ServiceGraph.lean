import FlowCorrelation.Context.Basic

namespace FlowCorrelation

structure ServiceGraph where
  nodes : NameSet := ∅
  calls : Dict NameSet := ∅
deriving DecidableEq, Repr

namespace ServiceGraph

def addService (g : ServiceGraph) (name : String) : ServiceGraph :=
  { g with nodes := g.nodes.insert name () }

def addCall (g : ServiceGraph) (source target : String) : ServiceGraph where
  nodes := (g.nodes.insert source ()).insert target ()
  calls := g.calls.update source (fun row ↦ (row.getD ∅).insert target ())

def ofContext (c : FlowContext) : ServiceGraph :=
  c.calls.foldl (fun g x ↦ g.addCall x.source x.target) (c.summary.services.foldl addService {})

def services (g : ServiceGraph) : List String := g.nodes.keys

def size (g : ServiceGraph) : Nat := g.nodes.size

def isEmpty (g : ServiceGraph) : Bool := g.nodes.isEmpty

def hasCall (g : ServiceGraph) (a b : String) : Bool := (g.calls.get? a).any (·.contains b)

def callers (g : ServiceGraph) (name : String) : List String :=
  g.calls.keys.filter (g.hasCall · name)

def callees (g : ServiceGraph) (name : String) : List String := ((g.calls.get? name).getD ∅).keys

def connected (g : ServiceGraph) (a b : String) : Bool := g.hasCall a b || g.hasCall b a

def callCount (g : ServiceGraph) : Nat := (g.calls.values.map Dict.size).foldl (· + ·) 0

end ServiceGraph

end FlowCorrelation
