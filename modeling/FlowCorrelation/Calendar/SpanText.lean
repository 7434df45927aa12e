import FlowCorrelation.Numeral.Decimal

namespace FlowCorrelation

def unitText (n places : Nat) : String :=
  String.ofList (Numeral.Decimal.normalized ⟨false, n, -(places : Int)⟩).positional

/-- The text of a span given in nanoseconds, in seconds, milliseconds, microseconds or
nanoseconds. -/
def spanText (nanos : Nat) : String :=
  if 1000000000 ≤ nanos then unitText nanos 9 ++ "s"
  else if 1000000 ≤ nanos then unitText nanos 6 ++ "ms"
  else if 1000 ≤ nanos then unitText nanos 3 ++ "µs"
  else toString nanos ++ "ns"

def millisText (millis : Nat) : String := spanText (millis * 1000000)

end FlowCorrelation
