import FlowCorrelation.FlowId.Basic

namespace FlowCorrelation

def isHexDigit (c : Char) : Bool :=
  ('0' ≤ c && c ≤ '9') || ('a' ≤ c && c ≤ 'f') || ('A' ≤ c && c ≤ 'F')

def stampParts? (l : List Char) : Option (List Char × List Char × List Char) := do
  let (rest, suffix) ← Text.splitLast '-' l
  let (head, time) ← Text.splitLast '-' rest
  return (head, time, suffix)

def stampSuffix? (head l : List Char) : Option (List Char) := do
  let (h, time, suffix) ← stampParts? l
  if suffix.length = 8 ∧ suffix.all isHexDigit ∧ time ≠ [] ∧ time.all Base36.isDigit ∧ head ≠ [] ∧
      h = head then some suffix
  else none

def identityKey (raw head : String) : String :=
  match stampSuffix? head.toList raw.toList with
  | some suffix => head ++ "-" ++ String.ofList suffix
  | none => raw

def FlowId.identity (id : FlowId) (head : String) : String := identityKey id.text head

end FlowCorrelation
