namespace FlowCorrelation

/-- A path with its last element, those before it from right to left, and its weight. -/
structure Path (α K : Type) where
  last : α
  before : List α
  weight : K
deriving Repr

namespace Path

variable {α K : Type}

def toList (p : Path α K) : List α := (p.last :: p.before).reverse

section

variable [Zero K] [Add K] [LT K] [DecidableLT K]

/-- Goes on from `p` to `a` if that makes a heavier path to `a` than the best one yet. -/
def improve (weight : α → α → K) (a : α) (best p : Path α K) : Path α K :=
  let w := weight p.last a
  if 0 < w ∧ best.weight < p.weight + w then ⟨a, p.last :: p.before, p.weight + w⟩ else best

/-- The heaviest path to `a` that extends one of the given paths; of equal ones the first. -/
def reaching (weight : α → α → K) (ps : List (Path α K)) (a : α) : Path α K :=
  ps.foldl (improve weight a) ⟨a, [], 0⟩

def all (weight : α → α → K) (l : List α) : List (Path α K) :=
  l.foldl (fun ps a ↦ ps ++ [reaching weight ps a]) []

end

/-- The heaviest of some paths; of equal ones the first. -/
def heaviest [LE K] [DecidableLE K] : List (Path α K) → Option (Path α K)
  | [] => none
  | p :: ps => some (ps.foldl (fun best q ↦ if q.weight ≤ best.weight then best else q) p)

end Path

variable {α K : Type} [Zero K] [Add K] [LT K] [DecidableLT K] [LE K] [DecidableLE K]

def heaviestPath (weight : α → α → K) (l : List α) : Option (Path α K) :=
  let ps := Path.all weight l
  (Path.heaviest (ps.filter (fun p ↦ 0 < p.weight))).or ps.head?

end FlowCorrelation
