import FlowCorrelation.Calendar.Date
import FlowCorrelation.Json.Reader
import FlowCorrelation.Numeral.Decimal
import FlowCorrelation.Toml.Table

namespace FlowCorrelation.Toml

open Json (Reader hexValue? takeDigits digitsValue word)

def isBlank (c : Char) : Bool := c = ' ' || c = '\t'

def skipBlanks (l : List Char) : List Char := l.dropWhile isBlank

def newline? : List Char → Option (List Char)
  | '\n' :: r => some r
  | '\r' :: '\n' :: r => some r
  | _ => none

def isPrintable (c : Char) : Bool := c = '\t' || (0x20 ≤ c.toNat && c.toNat ≠ 0x7F)

def endLine? (l : List Char) : Option (List Char) :=
  let l := match skipBlanks l with
    | '#' :: r => r.dropWhile isPrintable
    | r => r
  if l.isEmpty then some [] else newline? l

/-- Skips white space, line ends and whole comments, at most `fuel` of them. -/
def skipFiller : Nat → List Char → List Char
  | 0, l => l
  | fuel + 1, l =>
    match skipBlanks l with
    | '#' :: r => match newline? (r.dropWhile isPrintable) with
      | some r => skipFiller fuel r
      | none => '#' :: r
    | r => match newline? r with
      | some r => skipFiller fuel r
      | none => r

def codePoint (digits : Nat) (l : List Char) : Option (Char × List Char) := do
  let ds := l.take digits
  if ds.length < digits then none
  let n ← ds.foldlM (fun n c ↦ (hexValue? c).map (16 * n + ·)) 0
  if Nat.isValidChar n then some (Char.ofNat n, l.drop digits) else none

def escape : Reader Char
  | 'b' :: r => some ('\x08', r)
  | 't' :: r => some ('\t', r)
  | 'n' :: r => some ('\n', r)
  | 'f' :: r => some ('\x0c', r)
  | 'r' :: r => some ('\r', r)
  | '"' :: r => some ('"', r)
  | '\\' :: r => some ('\\', r)
  | 'u' :: r => codePoint 4 r
  | 'U' :: r => codePoint 8 r
  | _ => none

def lineString (quote : Char) : Nat → Reader (List Char)
  | 0, _ => none
  | fuel + 1, l =>
    match l with
    | [] => none
    | c :: r =>
      if c = quote then some ([], r)
      else if c = '\\' ∧ quote = '"' then do
        let (d, r) ← escape r
        let (ds, r) ← lineString quote fuel r
        return (d :: ds, r)
      else if isPrintable c then
        (lineString quote fuel r).map (fun (cs, r) ↦ (c :: cs, r))
      else none

def continuation? (l : List Char) : Option (List Char) :=
  (newline? (skipBlanks l)).map (fun r ↦ skipBlanks (skipLines (r.length + 1) r))
where
  skipLines : Nat → List Char → List Char
    | 0, l => l
    | fuel + 1, l => match newline? (skipBlanks l) with
      | some r => skipLines fuel r
      | none => l

def blockString (quote : Char) : Nat → Reader (List Char)
  | 0, _ => none
  | fuel + 1, l =>
    match l with
    | [] => none
    | c :: r =>
      if c = quote then
        let n := (l.takeWhile (· = quote)).length
        if n < 3 then
          (blockString quote fuel (l.drop n)).map (fun (cs, r) ↦ (List.replicate n quote ++ cs, r))
        else some (List.replicate (min n 5 - 3) quote, l.drop (min n 5))
      else if c = '\\' ∧ quote = '"' then
        match continuation? r with
        | some r => blockString quote fuel r
        | none => do
          let (d, r) ← escape r
          let (ds, r) ← blockString quote fuel r
          return (d :: ds, r)
      else match newline? (c :: r) with
        | some r => (blockString quote fuel r).map (fun (cs, r) ↦ ('\n' :: cs, r))
        | none =>
          if isPrintable c then (blockString quote fuel r).map (fun (cs, r) ↦ (c :: cs, r))
          else none

def string : Reader String
  | '"' :: '"' :: '"' :: r => block '"' r
  | '\'' :: '\'' :: '\'' :: r => block '\'' r
  | '"' :: r => line '"' r
  | '\'' :: r => line '\'' r
  | _ => none
where
  block (quote : Char) (l : List Char) : Option (String × List Char) :=
    (blockString quote (l.length + 1) ((newline? l).getD l)).map (fun (cs, r) ↦ (String.ofList cs, r))
  line (quote : Char) (l : List Char) : Option (String × List Char) :=
    (lineString quote (l.length + 1) l).map (fun (cs, r) ↦ (String.ofList cs, r))

def isBareKeyChar (c : Char) : Bool := c.isAlphanum || c = '_' || c = '-'

def keyPart (l : List Char) : Option (String × List Char) :=
  match l with
  | '"' :: r => string.line '"' r
  | '\'' :: r => string.line '\'' r
  | _ =>
    let cs := l.takeWhile isBareKeyChar
    if cs.isEmpty then none else some (String.ofList cs, l.drop cs.length)

def maxDepth : Nat := 79

def key : Nat → List Char → Option ((List String × String) × List Char)
  | 0, _ => none
  | fuel + 1, l => do
    let (part, r) ← keyPart (skipBlanks l)
    match skipBlanks r with
    | '.' :: r => do
      let ((path, last), r) ← key fuel r
      return ((part :: path, last), r)
    | r => return (([], part), r)

def digitGroups (isDigit : Char → Bool) : List Char → List Char × List Char
  | [] => ([], [])
  | c :: '_' :: d :: r =>
    if isDigit c && isDigit d then
      let (ds, r) := digitGroups isDigit (d :: r)
      (c :: ds, r)
    else if isDigit c then ([c], '_' :: d :: r)
    else ([], c :: '_' :: d :: r)
  | c :: r =>
    if isDigit c then
      let (ds, r) := digitGroups isDigit r
      (c :: ds, r)
    else ([], c :: r)

def sign : List Char → Bool × List Char
  | '-' :: r => (true, r)
  | '+' :: r => (false, r)
  | l => (false, l)

/-- Digits in decimal; a zero in front stands alone. -/
def wholeDigits : List Char → List Char × List Char
  | '0' :: r => (['0'], r)
  | l => digitGroups Char.isDigit l

def exponent (l : List Char) : Option (Int × List Char) :=
  let (negative, r) := sign l
  match digitGroups Char.isDigit r with
  | ([], _) => none
  | (ds, r) => some (if negative then -(digitsValue ds : Int) else digitsValue ds, r)

def optionalExponent : List Char → Option (Option Int × List Char)
  | 'e' :: r => (exponent r).map (fun (n, r) ↦ (some n, r))
  | 'E' :: r => (exponent r).map (fun (n, r) ↦ (some n, r))
  | l => some (none, l)

/-- A number with a fraction or an exponent, unless it is too great. -/
def realNumber (negative : Bool) (whole frac : List Char) (e : Int) : Option Json :=
  let x := Numeral.Decimal.toFloat ⟨negative, digitsValue (whole ++ frac), e - frac.length⟩
  if x = 1.0 / 0.0 then none else some (.real x)

def inWord (n : Int) : Option Json := if Word.holds n then some (.int n) else none

def decimalNumber (l : List Char) : Option (Json × List Char) := do
  let (negative, r) := sign l
  let (whole, r) := wholeDigits r
  if whole.isEmpty then none
  match r with
  | '.' :: r => do
    let (frac, r) := digitGroups Char.isDigit r
    if frac.isEmpty then none
    let (e, r) ← optionalExponent r
    return (← realNumber negative whole frac (e.getD 0), r)
  | r => do
    match ← optionalExponent r with
    | (some e, r) => return (← realNumber negative whole [] e, r)
    | (none, r) =>
      let n : Int := digitsValue whole
      return (← inWord (if negative then -n else n), r)

def basedInteger (base : Nat) (l : List Char) : Option (Json × List Char) := do
  let isDigit (c : Char) : Bool := (hexValue? c).any (· < base)
  let (ds, r) := digitGroups isDigit l
  if ds.isEmpty then none
  let n := ds.foldl (fun n c ↦ base * n + (hexValue? c).getD 0) 0
  return (← inWord n, r)

def specialNumber (negative : Bool) (l : List Char) : Option (Json × List Char) :=
  let infinity : Float := if negative then -1.0 / 0.0 else 1.0 / 0.0
  (word "inf" (.real infinity) l).or (word "nan" (.real (0.0 / 0.0)) l)

def boundedNumeral (digits low high : Nat) (l : List Char) : Option (Nat × List Char) :=
  let ds := l.take digits
  let n := digitsValue ds
  if ds.length = digits ∧ ds.all Char.isDigit ∧ low ≤ n ∧ n ≤ high then some (n, l.drop digits)
  else none

def literal (c : Char) : List Char → Option (List Char)
  | [] => none
  | d :: r => if d = c then some r else none

def date? (l : List Char) : Option (List Char) := do
  let (year, r) ← boundedNumeral 4 0 9999 l
  let (month, r) ← boundedNumeral 2 1 12 (← literal '-' r)
  let (day, r) ← boundedNumeral 2 1 31 (← literal '-' r)
  if day ≤ Date.daysInMonth year month then some r else none

def timeOfDay? (l : List Char) : Option (List Char) := do
  let (_, r) ← boundedNumeral 2 0 23 l
  let (_, r) ← boundedNumeral 2 0 59 (← literal ':' r)
  let (_, r) ← boundedNumeral 2 0 60 (← literal ':' r)
  match r with
  | '.' :: f =>
    let (ds, rest) := takeDigits f
    return if ds.isEmpty then r else rest
  | r => return r

/-- An offset from UTC, if one follows; what follows it. -/
def afterOffset (l : List Char) : List Char :=
  match l with
  | 'Z' :: r => r
  | 'z' :: r => r
  | c :: r =>
    if c = '+' ∨ c = '-' then
      let rest? : Option (List Char) := do
        let (_, r) ← boundedNumeral 2 0 23 r
        let (_, r) ← boundedNumeral 2 0 59 (← literal ':' r)
        return r
      rest?.getD l
    else l
  | [] => []

def dateTime? (l : List Char) : Option (List Char) :=
  match date? l with
  | none => timeOfDay? l
  | some r =>
    match r with
    | c :: t =>
      if c = 'T' ∨ c = 't' ∨ c = ' ' then
        match timeOfDay? t with
        | some t => some (afterOffset t)
        | none => some r
      else some r
    | [] => some []

def momentKey : String := "$__toml_private_datetime"

def dateOrNumber (l : List Char) : Option (Json × List Char) :=
  match dateTime? l with
  | some r =>
    some (.object [(momentKey, .text (String.ofList (l.take (l.length - r.length))))], r)
  | none =>
    match l with
    | '0' :: 'x' :: r => basedInteger 16 r
    | '0' :: 'o' :: r => basedInteger 8 r
    | '0' :: 'b' :: r => basedInteger 2 r
    | l =>
      let (negative, r) := sign l
      (specialNumber negative r).or (decimalNumber l)

def moreItems (item : Reader Json) : Nat → Reader (List Json)
  | 0, _ => none
  | fuel + 1, l =>
    match skipFiller (l.length + 1) l with
    | ']' :: r => some ([], r)
    | ',' :: r =>
      match skipFiller (r.length + 1) r with
      | ']' :: r => some ([], r)
      | r => do
        let (j, r) ← item r
        let (js, r) ← moreItems item fuel r
        return (j :: js, r)
    | _ => none

def items (item : Reader Json) (l : List Char) : Option (List Json × List Char) :=
  match skipFiller (l.length + 1) l with
  | ']' :: r => some ([], r)
  | r => do
    let (j, r) ← item r
    let (js, r) ← moreItems item (r.length + 1) r
    return (j :: js, r)

structure Entry where
  path : List String
  key : String
  value : Json

def entry (value : Reader Json) (l : List Char) : Option (Entry × List Char) := do
  let ((path, last), r) ← key maxDepth l
  let (j, r) ← value (skipBlanks (← literal '=' r))
  return (⟨path, last, j⟩, r)

def moreEntries (e : Reader Entry) : Nat → Reader (List Entry)
  | 0, _ => none
  | fuel + 1, l =>
    match skipBlanks l with
    | '\x7d' :: r => some ([], r)
    | ',' :: r => do
      let (x, r) ← e r
      let (xs, r) ← moreEntries e fuel r
      return (x :: xs, r)
    | _ => none

def entries (e : Reader Entry) (l : List Char) : Option (List Entry × List Char) :=
  match skipBlanks l with
  | '\x7d' :: r => some ([], r)
  | r => do
    let (x, r) ← e r
    let (xs, r) ← moreEntries e (r.length + 1) r
    return (x :: xs, r)

def addEntries (t : Table) (l : List Entry) : Option Table :=
  l.foldlM (fun t e ↦ t.addEntry e.path e.key e.value) t

/-- A value in which arrays and tables nest at most `depth` deep. -/
def value : Nat → Reader Json
  | depth, l =>
    match l with
    | [] => none
    | '"' :: _ => (string l).map (fun (s, r) ↦ (.text s, r))
    | '\'' :: _ => (string l).map (fun (s, r) ↦ (.text s, r))
    | '[' :: r => match depth with
      | 0 => none
      | depth + 1 => (items (value depth) r).map (fun (js, r) ↦ (.list js, r))
    | '\x7b' :: r => match depth with
      | 0 => none
      | depth + 1 => do
        let (es, r) ← entries (entry (value depth)) r
        return (.object (Table.membersOf (← addEntries [] es)), r)
    | 't' :: r => word "rue" (.bool true) r
    | 'f' :: r => word "alse" (.bool false) r
    | l => dateOrNumber l

inductive Statement where
  | entry (e : Entry)
  | header (path : List String)
  | item (path : List String)

def header : Reader Statement
  | '[' :: '[' :: r => do
    let ((path, last), r) ← key maxDepth r
    return (.item (path ++ [last]), ← literal ']' (← literal ']' r))
  | '[' :: r => do
    let ((path, last), r) ← key maxDepth r
    return (.header (path ++ [last]), ← literal ']' r)
  | _ => none

/-- The statements of a document, at most `fuel` lines of it. -/
def statements : Nat → List Char → Option (List Statement)
  | 0, _ => none
  | fuel + 1, l =>
    match skipBlanks l with
    | [] => some []
    | '[' :: r => do
      let (s, r) ← header ('[' :: r)
      return s :: (← statements fuel (← endLine? r))
    | l =>
      match endLine? l with
      | some r => statements fuel r
      | none => do
        let (e, r) ← entry (value maxDepth) l
        return .entry e :: (← statements fuel (← endLine? r))

/-- A header with the entries below it. -/
structure Section where
  heading : Statement
  entries : List Entry

/-- Cuts statements at the headers; the entries before the first of them come apart. -/
def sections : List Statement → List Entry × List Section
  | [] => ([], [])
  | .entry e :: l =>
    let (es, ss) := sections l
    (e :: es, ss)
  | s :: l =>
    let (es, ss) := sections l
    ([], ⟨s, es⟩ :: ss)

def addSection (t : Table) (s : Section) : Option Table :=
  let fill (u : Table) : Option Table := addEntries u s.entries
  match s.heading with
  | .header path => t.descend (Table.openTable fill) path
  | .item path => t.descend (Table.openItem fill) path
  | .entry _ => none

def document (l : List Statement) : Option Json := do
  let (es, ss) := sections l
  let root ← addEntries [] es
  return .object (Table.membersOf (← ss.foldlM addSection root))

/-- Reads a document; a byte order mark in front is passed over. -/
def read? (s : String) : Option Json :=
  let l := match s.toList with
    | '\ufeff' :: r => r
    | r => r
  (statements (l.length + 1) l).bind document

end FlowCorrelation.Toml
