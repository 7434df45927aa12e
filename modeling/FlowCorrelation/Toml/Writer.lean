import FlowCorrelation.Json.Basic
import FlowCorrelation.Numeral.Decimal
import FlowCorrelation.Text.Split
import FlowCorrelation.Toml.Reader

namespace FlowCorrelation.Toml

def longestRun (c : Char) (l : List Char) : Nat :=
  (l.foldl (fun (best, run) d ↦
    let run := if d = c then run + 1 else 0
    (max best run, run)) (0, 0)).1

/-- Controls that can be written only as escapes. -/
def needsEscape (c : Char) : Bool := (c.toNat < 0x20 && c ≠ '\t' && c ≠ '\n') || c.toNat = 0x7F

def escaped (c : Char) : List Char :=
  if c = '\x08' then ['\\', 'b']
  else if c = '\t' then ['\\', 't']
  else if c = '\n' then ['\\', 'n']
  else if c = '\x0c' then ['\\', 'f']
  else if c = '\r' then ['\\', 'r']
  else if c = '"' then ['\\', '"']
  else if c = '\\' then ['\\', '\\']
  else if needsEscape c then
    ['\\', 'u', '0', '0', (Nat.digitChar (c.toNat / 16)).toUpper, (Nat.digitChar (c.toNat % 16)).toUpper]
  else [c]

/-- A text over several lines: line ends and up to two double quotes in a row stand for
themselves. -/
def blockChars : Nat → List Char → List Char
  | _, [] => []
  | quotes, c :: r =>
    if c = '"' then
      if quotes < 2 then '"' :: blockChars (quotes + 1) r else '\\' :: '"' :: blockChars 0 r
    else if c = '\n' then '\n' :: blockChars 0 r
    else escaped c ++ blockChars 0 r

def basicChars (l : List Char) : List Char := '"' :: l.flatMap escaped ++ ['"']

def literalChars (l : List Char) : List Char := '\'' :: l ++ ['\'']

def stringChars (s : String) : List Char :=
  let l := s.toList
  let controls := l.any needsEscape
  let newline := l.contains '\n'
  let lead := if newline then ['\n'] else []
  if !controls && !l.contains '\\' && !l.contains '"' && !newline then basicChars l
  else if !controls && !l.contains '\'' && !newline then literalChars l
  else if !controls && !l.contains '\\' && longestRun '"' l ≤ 2 then
    "\"\"\"".toList ++ lead ++ blockChars 0 l ++ "\"\"\"".toList
  else if !controls && longestRun '\'' l ≤ 2 then "'''".toList ++ lead ++ l ++ "'''".toList
  else if newline then "\"\"\"".toList ++ lead ++ blockChars 0 l ++ "\"\"\"".toList
  else basicChars l

def keyChars (s : String) : List Char :=
  let l := s.toList
  let controls := l.any (fun c ↦ needsEscape c || c = '\n')
  if !l.isEmpty && l.all isBareKeyChar then l
  else if !controls && !l.contains '\\' && !l.contains '"' then basicChars l
  else if !controls && !l.contains '\'' then literalChars l
  else basicChars l

def realText (x : Float) : String :=
  let s := Numeral.plain x
  if !x.isFinite then s.map Char.toLower
  else if s.toList.contains '.' then s
  else s ++ ".0"

/-- The text of a plain value, unless it is an integer beyond 64 bits with a sign. -/
def valueChars : Json → Option (List Char)
  | .text s => some (stringChars s)
  | .bool b => some (toString b).toList
  | .int n => if Word.holds n then some (toString n).toList else none
  | .real x => some (realText x).toList
  | _ => none

def listChars (l : List Json) : Option (List Char) := do
  let items ← l.mapM valueChars
  if items.length ≤ 1 then return '[' :: items.flatten ++ [']']
  else return '[' :: '\n' :: items.flatMap (fun cs ↦ "    ".toList ++ cs ++ [',', '\n']) ++ [']']

/-- The line of an entry; what is null or a table has none. -/
def entryChars : String × Json → Option (List Char)
  | (_, .null) => some []
  | (_, .object _) => some []
  | (k, .list l) => (listChars l).map (fun cs ↦ keyChars k ++ " = ".toList ++ cs ++ ['\n'])
  | (k, j) => (valueChars j).map (fun cs ↦ keyChars k ++ " = ".toList ++ cs ++ ['\n'])

def headerChars (path : List String) : List Char :=
  '[' :: Text.joinWith ['.'] (path.map keyChars) ++ [']', '\n']

mutual

/-- The texts of a table and of those in it; a table that holds only tables has no text. -/
def tableTexts (path : List String) : Json → Option (List (List Char))
  | .object m => do
    let own := (← m.mapM entryChars).flatten
    let shown := if own.isEmpty && (path.isEmpty || !m.isEmpty) then [] else
      [(if path.isEmpty then [] else headerChars path) ++ own]
    return shown ++ (← innerTexts path m)
  | _ => some []

def innerTexts (path : List String) : List (String × Json) → Option (List (List Char))
  | [] => some []
  | (k, j) :: m => do return (← tableTexts (path ++ [k]) j) ++ (← innerTexts path m)

end

/-- The document of an object, unless it holds an integer that is too great. -/
def render? (j : Json) : Option String :=
  (tableTexts [] j).map (fun ts ↦ String.ofList (Text.joinWith ['\n'] ts))

end FlowCorrelation.Toml
