import FlowCorrelation.Json.Basic

namespace FlowCorrelation.Json

/-- A reader takes a value off the front of a text. -/
abbrev Reader (α : Type) := List Char → Option (α × List Char)

def isSpace (c : Char) : Bool := c = ' ' || c = '\n' || c = '\t' || c = '\r'

def skipSpace (l : List Char) : List Char := l.dropWhile isSpace

def hexValue? (c : Char) : Option Nat :=
  if '0' ≤ c ∧ c ≤ '9' then some (c.toNat - '0'.toNat)
  else if 'a' ≤ c ∧ c ≤ 'f' then some (c.toNat - 'a'.toNat + 10)
  else if 'A' ≤ c ∧ c ≤ 'F' then some (c.toNat - 'A'.toNat + 10)
  else none

def hexUnit : Reader Nat
  | a :: b :: c :: d :: r => do
    return ((((← hexValue? a) * 16 + (← hexValue? b)) * 16 + (← hexValue? c)) * 16 + (← hexValue? d), r)
  | _ => none

def isHighSurrogate (n : Nat) : Bool := 0xD800 ≤ n && n < 0xDC00

def isLowSurrogate (n : Nat) : Bool := 0xDC00 ≤ n && n < 0xE000

/-- The character of a numeric escape; a character beyond 16 bits takes two escapes. -/
def numericEscape (l : List Char) : Option (Char × List Char) := do
  let (n, r) ← hexUnit l
  if isLowSurrogate n then none
  else if isHighSurrogate n then
    match r with
    | '\\' :: 'u' :: r => do
      let (m, r) ← hexUnit r
      if isLowSurrogate m then
        return (Char.ofNat ((n - 0xD800) * 0x400 + (m - 0xDC00) + 0x10000), r)
      else none
    | _ => none
  else return (Char.ofNat n, r)

def escape : Reader Char
  | '"' :: r => some ('"', r)
  | '\\' :: r => some ('\\', r)
  | '/' :: r => some ('/', r)
  | 'b' :: r => some ('\x08', r)
  | 'f' :: r => some ('\x0c', r)
  | 'n' :: r => some ('\n', r)
  | 'r' :: r => some ('\r', r)
  | 't' :: r => some ('\t', r)
  | 'u' :: r => numericEscape r
  | _ => none

/-- The characters up to the closing quote, at most `fuel` of them. -/
def stringBody : Nat → Reader (List Char)
  | 0, _ => none
  | fuel + 1, l =>
    match l with
    | [] => none
    | '"' :: r => some ([], r)
    | '\\' :: r => do
      let (c, r) ← escape r
      let (cs, r) ← stringBody fuel r
      return (c :: cs, r)
    | c :: r =>
      if c.toNat < 0x20 then none
      else (stringBody fuel r).map (fun (cs, r) ↦ (c :: cs, r))

def string (l : List Char) : Option (String × List Char) :=
  (stringBody (l.length + 1) l).map (fun (cs, r) ↦ (String.ofList cs, r))

def takeDigits (l : List Char) : List Char × List Char := l.span Char.isDigit

def digitsValue (ds : List Char) : Nat := ds.foldl (fun n c ↦ 10 * n + (c.toNat - '0'.toNat)) 0

/-- The digits after a point; there is at least one. -/
def fractionDigits : Reader (List Char)
  | '.' :: r => match takeDigits r with
    | ([], _) => none
    | (ds, r) => some (ds, r)
  | l => some ([], l)

/-- An exponent with its sign; no exponent counts as nothing. -/
def exponentPart : Reader (Option Int)
  | c :: r =>
    if c = 'e' ∨ c = 'E' then
      let (negative, r) := match r with
        | '-' :: r => (true, r)
        | '+' :: r => (false, r)
        | r => (false, r)
      match takeDigits r with
      | ([], _) => none
      | (ds, r) =>
        let n : Int := digitsValue ds
        some (some (if negative then -n else n), r)
    else some (none, c :: r)
  | [] => some (none, [])

/-- Takes digits onto a significand while it stays within 64 bits; gives the digits that are left. -/
def gather : Nat → List Char → Nat × List Char
  | n, [] => (n, [])
  | n, c :: ds =>
    let m := 10 * n + (c.toNat - '0'.toNat)
    if m ≤ 0xFFFFFFFFFFFFFFFF then gather m ds else (n, c :: ds)

def shrunk : Nat → Float → Float
  | 0, x => x
  | rounds + 1, x => if x == 0.0 then x else shrunk rounds (x / 1e308)

def powerOfTen (n : Nat) : Float := Float.ofScientific 1 false n

/-- A double times a power of ten, unless it is too great. Each product and quotient on the way is
rounded, so the result need not be the nearest double. -/
def scaled (x : Float) (exponent : Int) : Option Float :=
  if exponent < 0 then
    let places := exponent.natAbs
    let rounds := (places - 1) / 308
    some (shrunk rounds x / powerOfTen (places - 308 * rounds))
  else if exponent ≤ 308 then
    let y := x * powerOfTen exponent.natAbs
    if y.isFinite then some y else none
  else if x == 0.0 then some x
  else none

/-- The value of a numeral in doubles. Digits of its whole part that the significand cannot take count
as places, and those of its fraction as nothing. -/
def realValue (negative : Bool) (whole frac : List Char) (exponent : Int) : Option Json :=
  let (n, more) := gather 0 whole
  let (n, rest) := gather n frac
  let places : Int := (more.length : Int) - (frac.length - rest.length : Nat)
  (scaled (UInt64.ofNat n).toFloat (exponent + places)).map (fun x ↦ .real (if negative then -x else x))

/-- The value of an integer numeral: an integer within 64 bits, otherwise a double. -/
def integerValue (negative : Bool) (whole : List Char) : Option Json :=
  let n := digitsValue whole
  if negative then
    if n ≠ 0 ∧ n ≤ 0x8000000000000000 then some (.int (-(n : Int))) else realValue true whole [] 0
  else if n ≤ 0xFFFFFFFFFFFFFFFF then some (.int n)
  else realValue false whole [] 0

/-- A numeral without its sign; a zero stands alone before the point. -/
def unsigned (negative : Bool) (l : List Char) : Option (Json × List Char) := do
  let (whole, r) := takeDigits l
  if whole.isEmpty ∨ (1 < whole.length ∧ whole.head? = some '0') then none
  let (frac, r) ← fractionDigits r
  let (exponent, r) ← exponentPart r
  if frac.isEmpty ∧ exponent = none then
    return (← integerValue negative whole, r)
  else
    return (← realValue negative whole frac (exponent.getD 0), r)

def number : Reader Json
  | '-' :: r => unsigned true r
  | l => unsigned false l

def moreItems {α : Type} (item : Reader α) (close : Char) : Nat → Reader (List α)
  | 0, _ => none
  | fuel + 1, l =>
    match skipSpace l with
    | [] => none
    | c :: r =>
      if c = close then some ([], r)
      else if c = ',' then do
        let (a, r) ← item r
        let (rest, r) ← moreItems item close fuel r
        return (a :: rest, r)
      else none

def items {α : Type} (item : Reader α) (close : Char) (l : List Char) : Option (List α × List Char) :=
  match skipSpace l with
  | [] => none
  | c :: r =>
    if c = close then some ([], r)
    else do
      let (a, r) ← item (c :: r)
      let (rest, r) ← moreItems item close (r.length + 1) r
      return (a :: rest, r)

def member (value : Reader Json) (l : List Char) : Option ((String × Json) × List Char) :=
  match skipSpace l with
  | '"' :: r => do
    let (name, r) ← string r
    match skipSpace r with
    | ':' :: r => do
      let (j, r) ← value r
      return ((name, j), r)
    | _ => none
  | _ => none

def word (w : String) (j : Json) (l : List Char) : Option (Json × List Char) :=
  if w.toList.isPrefixOf l then some (j, l.drop w.length) else none

/-- A value in which arrays and objects nest at most `depth` deep. -/
def value : Nat → Reader Json
  | depth, l =>
    match skipSpace l with
    | [] => none
    | '"' :: r => (string r).map (fun (s, r) ↦ (.text s, r))
    | '[' :: r => match depth with
      | 0 => none
      | depth + 1 => (items (value depth) ']' r).map (fun (js, r) ↦ (.list js, r))
    | '\x7b' :: r => match depth with
      | 0 => none
      | depth + 1 => (items (member (value depth)) '\x7d' r).map (fun (ms, r) ↦ (.object ms, r))
    | 't' :: r => word "rue" (.bool true) r
    | 'f' :: r => word "alse" (.bool false) r
    | 'n' :: r => word "ull" .null r
    | l => number l

def maxDepth : Nat := 127

def readChars? (l : List Char) : Option Json := do
  let (j, r) ← value maxDepth l
  if (skipSpace r).isEmpty then some j else none

def read? (s : String) : Option Json := readChars? s.toList

end FlowCorrelation.Json
