namespace FlowCorrelation.Base36

def digit (d : Nat) : Char := if d < 10 then Char.ofNat (48 + d) else Char.ofNat (87 + d)

def digits (n : Nat) : List Char :=
  if n = 0 then [] else digits (n / 36) ++ [digit (n % 36)]

def render (n : Nat) : List Char := if n = 0 then ['0'] else digits n

def isDigit (c : Char) : Bool := ('0' ≤ c && c ≤ '9') || ('a' ≤ c && c ≤ 'z')

def digitValue (c : Char) : Nat := if c ≤ '9' then c.toNat - 48 else c.toNat - 87

def read? (l : List Char) : Option Nat :=
  if l.isEmpty ∨ ¬ l.all isDigit then none
  else some (l.foldl (fun n c ↦ 36 * n + digitValue c) 0)

end FlowCorrelation.Base36
