import FlowCorrelation.Calendar.Instant
import FlowCorrelation.Dict
import FlowCorrelation.Journal
import FlowCorrelation.Settings.Basic

namespace FlowCorrelation

def overflowValue : String := "__overflow__"

/-- The values of one attribute with the time each was last seen, and how many were refused. -/
structure ValueWindow where
  lastSeen : Dict Instant := ∅
  refusals : Nat := 0
deriving BEq, Repr

namespace ValueWindow

def evictBefore (w : ValueWindow) (cutoff : Instant) : ValueWindow :=
  { w with lastSeen := w.lastSeen.filter (fun _ t ↦ cutoff ≤ t) }

def size (w : ValueWindow) : Nat := w.lastSeen.size

end ValueWindow

structure ValueGuard where
  defaultLimit : Nat
  window : Span
  limits : Dict Nat := ∅
  windows : Dict ValueWindow := ∅
  refusals : Nat := 0
deriving BEq, Repr

structure GuardEntry where
  name : String
  liveValues : Nat
  limit : Nat
  refusals : Nat
deriving DecidableEq, Repr

/-- The guard after it was asked about a value, its answer, and how many values made room. There
is no answer where the window reaches back beyond the calendar. -/
structure Admission where
  guard : ValueGuard
  admitted : Option Bool
  evicted : Nat := 0

structure Sweep where
  guard : ValueGuard
  removed : Nat

def Admission.notices (a : Admission) (name : String) : List Notice :=
  if a.evicted = 0 then [] else [.debug s!"Evicted {a.evicted} expired values of {name}"]

def Sweep.notices (s : Sweep) : List Notice :=
  if s.removed = 0 then [] else [.debug s!"Cardinality sweep removed {s.removed} values"]

namespace ValueGuard

def maxWindowSecs : Nat := 315360000

def ofSettings (s : GuardSettings) : ValueGuard where
  defaultLimit := s.maxValues
  window := (min s.windowSecs maxWindowSecs : Nat) * 1000000000
  limits := s.limits

/-- Sets the limit of one attribute; zero admits nothing. -/
def withLimit (g : ValueGuard) (name : String) (limit : Nat) : ValueGuard :=
  { g with limits := g.limits.insert name limit }

def limitFor (g : ValueGuard) (name : String) : Nat := (g.limits.get? name).getD g.defaultLimit

def windowOf (g : ValueGuard) (name : String) : ValueWindow := (g.windows.get? name).getD {}

def withWindow (g : ValueGuard) (name : String) (w : ValueWindow) : ValueGuard :=
  { g with windows := g.windows.insert name w }

def refuse (g : ValueGuard) (name : String) (w : ValueWindow) : ValueGuard :=
  { g.withWindow name { w with refusals := w.refusals + 1 } with refusals := g.refusals + 1 }

def admitNew (g : ValueGuard) (now : Instant) (name value : String) (w : ValueWindow) :
    ValueGuard × Bool :=
  if w.size < g.limitFor name then
    (g.withWindow name { w with lastSeen := w.lastSeen.insert value now }, true)
  else (g.refuse name w, false)

def allow (g : ValueGuard) (now : Instant) (name value : String) : Admission :=
  let w := g.windowOf name
  if g.limitFor name = 0 then ⟨g.refuse name w, some false, 0⟩
  else if w.lastSeen.contains value then
    ⟨g.withWindow name { w with lastSeen := w.lastSeen.insert value now }, some true, 0⟩
  else if w.size < g.limitFor name then
    let (g', ok) := g.admitNew now name value w
    ⟨g', some ok, 0⟩
  else match now.sub? g.window with
    | none => ⟨g.withWindow name w, none, 0⟩
    | some cutoff =>
      let w' := w.evictBefore cutoff
      let (g', ok) := g.admitNew now name value w'
      ⟨g', some ok, w.size - w'.size⟩

def liveTotal (windows : Dict ValueWindow) : Nat := (windows.values.map ValueWindow.size).foldl (· + ·) 0

/-- Forgets every value last seen before the window that ends at `now`. Windows are kept while
they hold a value or a refusal. There is no sweep where the window reaches back beyond the
calendar. -/
def sweep? (g : ValueGuard) (now : Instant) : Option Sweep :=
  (now.sub? g.window).map (fun cutoff ↦
    let windows := g.windows.map (fun _ w ↦ w.evictBefore cutoff)
    { guard := { g with windows := windows.filter (fun _ w ↦ w.size ≠ 0 || 0 < w.refusals) }
      removed := liveTotal g.windows - liveTotal windows })

def liveValues (g : ValueGuard) (name : String) : Nat := (g.windowOf name).size

def entries (g : ValueGuard) : List GuardEntry :=
  g.windows.entries.map (fun (name, w) ↦ ⟨name, w.size, g.limitFor name, w.refusals⟩)

/-- Sweeps at the given time if a sweep falls between two moments, sweeps being `every` apart and
the first at moment zero. One sweep does for several at the same time. -/
def sweepBetween (g : ValueGuard) (every start stop : Nat) (now : Instant) : Option Sweep :=
  if every ≠ 0 ∧ start < stop ∧ (start + every - 1) / every * every < stop then g.sweep? now
  else none

def sweeperNotice (every : String) : Notice :=
  .info s!"Cardinality sweeper started (every {every})"

end ValueGuard

end FlowCorrelation
