namespace FlowCorrelation

instance floatNatCast : NatCast Float := ⟨Float.ofNat⟩

/-- Numbers in which rates, effects and scores are computed. -/
class Scalar (K : Type) where
  ofFloat : Float → K
  exp : K → K
  /-- A total order, which agrees with the order of the numbers where both are defined. -/
  atMost : K → K → Bool

/-- The place of a double among all doubles: from the negative to the positive, a zero with a sign
before one without, and values that are no numbers at both ends. -/
def floatRank (x : Float) : Int :=
  let bits := x.toBits.toNat
  if 0x8000000000000000 ≤ bits then -1 - ((bits - 0x8000000000000000 : Nat) : Int) else bits

instance : Scalar Float where
  ofFloat := id
  exp := Float.exp
  atMost a b := floatRank a ≤ floatRank b

section

variable {K : Type} [Zero K] [One K] [LT K] [DecidableLT K]

def clampUnit (x : K) : K := if x < 0 then 0 else if 1 < x then 1 else x

end

def runningMean {K : Type} [Zero K] [Add K] [Sub K] [Div K] [NatCast K] (l : List K) : K :=
  (l.foldl (fun (n, m) x ↦ (n + 1, m + (x - m) / ((n + 1 : Nat) : K))) ((0 : Nat), (0 : K))).2

end FlowCorrelation
