import FlowCorrelation.Json.Reader

namespace FlowCorrelation.Json

def skipEscape : List Char → Option (List Char)
  | 'u' :: r => (hexUnit r).map Prod.snd
  | l => (escape l).map Prod.snd

/-- Takes off a string and its closing quote, at most `fuel` characters. -/
def skipString : Nat → List Char → Option (List Char)
  | 0, _ => none
  | fuel + 1, l =>
    match l with
    | [] => none
    | '"' :: r => some r
    | '\\' :: r => (skipEscape r).bind (skipString fuel)
    | c :: r => if c.toNat < 0x20 then none else skipString fuel r

def skipNumber (l : List Char) : Option (List Char) := do
  let (whole, r) := takeDigits (match l with
    | '-' :: r => r
    | r => r)
  if whole.isEmpty ∨ (1 < whole.length ∧ whole.head? = some '0') then none
  let (_, r) ← fractionDigits r
  let (_, r) ← exponentPart r
  return r

def skipMember (skip : List Char → Option (List Char)) (l : List Char) : Option (List Char) :=
  match skipSpace l with
  | '"' :: r => do
    let r ← skipString (r.length + 1) r
    match skipSpace r with
    | ':' :: r => skip r
    | _ => none
  | _ => none

def skipItems (skip : List Char → Option (List Char)) (close : Char) (l : List Char) :
    Option (List Char) :=
  (items (fun l ↦ (skip l).map (fun r ↦ ((), r))) close l).map Prod.snd

/-- Takes off a value in which arrays and objects nest at most `depth` deep. -/
def skipWithin : Nat → List Char → Option (List Char)
  | depth, l =>
    match skipSpace l with
    | [] => none
    | '"' :: r => skipString (r.length + 1) r
    | '[' :: r => match depth with
      | 0 => none
      | depth + 1 => skipItems (skipWithin depth) ']' r
    | '\x7b' :: r => match depth with
      | 0 => none
      | depth + 1 => skipItems (skipMember (skipWithin depth)) '\x7d' r
    | 't' :: r => (word "rue" .null r).map Prod.snd
    | 'f' :: r => (word "alse" .null r).map Prod.snd
    | 'n' :: r => (word "ull" .null r).map Prod.snd
    | l => skipNumber l

def skip (l : List Char) : Option (List Char) := skipWithin l.length l

end FlowCorrelation.Json
