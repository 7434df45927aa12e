import FlowCorrelation.Numeral.Double
import FlowCorrelation.Numeral.Scalar
import Mathlib.Analysis.SpecialFunctions.Exp

namespace FlowCorrelation

/-- What a finite double stands for; all others count as zero. -/
noncomputable def Numeral.Double.value : Double → ℝ
  | .finite negative mantissa exponent => (if negative then -1 else 1) * mantissa * 2 ^ exponent
  | .infinite _ | .notANumber => 0

noncomputable instance : Scalar ℝ where
  ofFloat x := (Numeral.Double.ofFloat x).value
  exp := Real.exp
  atMost a b := decide (a ≤ b)

theorem ofFloat_of_finite {x : Float} {negative : Bool} {m : Nat} {q : Int}
    (h : Numeral.Double.ofFloat x = .finite negative m q) :
    (Scalar.ofFloat x : ℝ) = (if negative then -1 else 1) * m * 2 ^ q :=
  congrArg Numeral.Double.value h

end FlowCorrelation
