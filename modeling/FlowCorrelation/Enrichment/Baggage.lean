import FlowCorrelation.Text.Blank
import FlowCorrelation.Text.Split

namespace FlowCorrelation.Baggage

open Text

def member? (l : List Char) : Option (List Char × List Char) :=
  (splitFirst '=' (trim (l.takeWhile (· ≠ ';')))).map (fun (k, v) ↦ (trim k, trim v))

/-- The members of a header; what is no member is left out. -/
def members (l : List Char) : List (List Char × List Char) :=
  (splitAll (· = ',') l).filterMap member?

def value? (header key : String) : Option String :=
  ((members header.toList).find? (fun (k, v) ↦ k = key.toList && !v.isEmpty)).map
    (fun (_, v) ↦ String.ofList v)

end FlowCorrelation.Baggage
