import FlowCorrelation.Cause.Event
import FlowCorrelation.Cause.Path
import FlowCorrelation.ServiceGraph

namespace FlowCorrelation

structure Chain (K : Type) where
  events : List CauseEvent := []
  weight : K
  /-- One minus the exponential of the negated weight. -/
  strength : K

namespace CauseEvent

def closeness {K : Type} [Scalar K] (s : CauseSettings) (gapMs : Float) : K :=
  Scalar.exp (Scalar.ofFloat (-gapMs / Float.ofNat (max s.decayMs 1)))

variable {K : Type} [Zero K] [One K] [Mul K] [Scalar K]

def nearness (g : ServiceGraph) (s : CauseSettings) (a b : CauseEvent) : K :=
  if a.service = b.service || g.connected a.service b.service then 1
  else Scalar.ofFloat s.unrelatedWeight

def linkWeight (g : ServiceGraph) (s : CauseSettings) (a b : CauseEvent) : K :=
  let gap := millisSince b.timestamp a.timestamp
  if gap < 0 ∨ Float.ofNat s.maxLookbackMs < gap then 0
  else closeness s gap * nearness g s a b * Scalar.ofFloat (a.kind.affinity b.kind)

end CauseEvent

namespace Chain

variable {K : Type} [Zero K] [One K] [Add K] [Sub K] [Mul K] [Neg K] [LT K] [DecidableLT K] [LE K]
  [DecidableLE K] [Scalar K]

def empty : Chain K := ⟨[], 0, 0⟩

/-- A path as a chain; a single incident has no strength. -/
def ofPath (p : Path CauseEvent K) : Chain K where
  events := p.toList
  weight := p.weight
  strength := if p.before.isEmpty then 0 else 1 - Scalar.exp (-p.weight)

def ofEvents (g : ServiceGraph) (s : CauseSettings) (events : List CauseEvent) : Chain K :=
  ((heaviestPath (CauseEvent.linkWeight g s) (events.filter (·.kind.isIncident))).map ofPath).getD
    empty

def origin? {K : Type} (c : Chain K) : Option String := c.events.head?.map (·.service)

def isEmpty {K : Type} (c : Chain K) : Bool := c.events.isEmpty

end Chain

def stepText (start : Instant) (i : Nat) (e : CauseEvent) : String :=
  toString (i + 1) ++ ". [+" ++ Numeral.fixed 0 (millisSince e.timestamp start) ++ "ms] " ++
    e.service ++ " " ++ e.kind.label ++ ": " ++ e.description

def interpretation (events : List CauseEvent) : String :=
  match events with
  | [] => ""
  | first :: _ => ", then ".intercalate (events.mapIdx (stepText first.timestamp))

end FlowCorrelation
