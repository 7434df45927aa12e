import FlowCorrelation.Json.Basic
import FlowCorrelation.Numeral.Decimal
import FlowCorrelation.Text.Quoted

namespace FlowCorrelation.Json

def escapedChar (c : Char) : List Char :=
  if c = '"' then ['\\', '"']
  else if c = '\\' then ['\\', '\\']
  else if c = '\n' then ['\\', 'n']
  else if c = '\r' then ['\\', 'r']
  else if c = '\t' then ['\\', 't']
  else if c = '\x08' then ['\\', 'b']
  else if c = '\x0c' then ['\\', 'f']
  else if c.toNat < 0x20 then
    ['\\', 'u', '0', '0', Nat.digitChar (c.toNat / 16), Nat.digitChar (c.toNat % 16)]
  else [c]

def stringChars (s : String) : List Char := '"' :: s.toList.flatMap escapedChar ++ ['"']

def realChars (x : Float) : List Char := ((Numeral.compact x).getD "null").toList

mutual

def chars : Json → List Char
  | .null => "null".toList
  | .bool b => (if b then "true" else "false").toList
  | .int n => (toString n).toList
  | .real x => realChars x
  | .text s => stringChars s
  | .list l => '[' :: itemChars l ++ [']']
  | .object m => '\x7b' :: memberChars m ++ ['\x7d']

def itemChars : List Json → List Char
  | [] => []
  | [j] => chars j
  | j :: k :: l => chars j ++ ',' :: itemChars (k :: l)

def memberChars : List (String × Json) → List Char
  | [] => []
  | [(name, j)] => stringChars name ++ ':' :: chars j
  | (name, j) :: m :: l => stringChars name ++ ':' :: chars j ++ ',' :: memberChars (m :: l)

end

def render (j : Json) : String := String.ofList (chars j)

def newLine (depth : Nat) : List Char := '\n' :: List.replicate (2 * depth) ' '

mutual

def prettyChars (depth : Nat) : Json → List Char
  | .list [] => ['[', ']']
  | .list l => '[' :: prettyItems (depth + 1) l ++ newLine depth ++ [']']
  | .object [] => ['\x7b', '\x7d']
  | .object m => '\x7b' :: prettyMembers (depth + 1) m ++ newLine depth ++ ['\x7d']
  | j => chars j

def prettyItems (depth : Nat) : List Json → List Char
  | [] => []
  | [j] => newLine depth ++ prettyChars depth j
  | j :: k :: l => newLine depth ++ prettyChars depth j ++ ',' :: prettyItems depth (k :: l)

def prettyMembers (depth : Nat) : List (String × Json) → List Char
  | [] => []
  | [(name, j)] => newLine depth ++ stringChars name ++ ':' :: ' ' :: prettyChars depth j
  | (name, j) :: m :: l =>
    newLine depth ++ stringChars name ++ ':' :: ' ' :: prettyChars depth j ++
      ',' :: prettyMembers depth (m :: l)

end

def pretty (j : Json) : String := String.ofList (prettyChars 0 j)

end FlowCorrelation.Json
