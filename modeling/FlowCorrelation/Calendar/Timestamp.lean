import FlowCorrelation.Calendar.Date
import FlowCorrelation.Calendar.Instant
import FlowCorrelation.Text.Blank

namespace FlowCorrelation.Timestamp

open Text

def number (most : Nat) (l : List Char) : Option (Nat × List Char) :=
  let ds := (l.take most).takeWhile Char.isDigit
  if ds.isEmpty then none
  else some (ds.foldl (fun n c ↦ 10 * n + (c.toNat - '0'.toNat)) 0, l.drop ds.length)

/-- Reads a numeral of at most two digits after optional white space. -/
def field (l : List Char) : Option (Nat × List Char) := number 2 (trimLeft l)

def literal (allowed : List Char) : List Char → Option (List Char)
  | [] => none
  | c :: r => if allowed.contains c then some r else none

/-- Reads a year: four digits at most, or any number of digits after a sign. -/
def year (l : List Char) : Option (Int × List Char) :=
  match trimLeft l with
  | '-' :: r => (number r.length r).map (fun (n, r) ↦ (-(n : Int), r))
  | '+' :: r => (number r.length r).map (fun (n, r) ↦ ((n : Int), r))
  | l => (number 4 l).map (fun (n, r) ↦ ((n : Int), r))

/-- Reads an optional fraction of a second as nanoseconds; digits after the ninth are dropped. -/
def fraction : List Char → Option (Nat × List Char)
  | '.' :: r =>
    (number 9 r).map (fun (n, rest) ↦
      (n * Nat.pow 10 (9 - (r.length - rest.length)), rest.dropWhile Char.isDigit))
  | l => some (0, l)

def digit? (c : Char) : Option Nat := if c.isDigit then some (c.toNat - '0'.toNat) else none

def twoDigits : List Char → Option (Nat × List Char)
  | a :: b :: r => do return (10 * (← digit? a) + (← digit? b), r)
  | _ => none

def offset (l : List Char) : Option (Int × List Char) :=
  if (l.take 3).map Char.toUpper = ['U', 'T', 'C'] then some (0, l.drop 3)
  else match l with
    | [] => none
    | c :: r =>
      if c = 'Z' ∨ c = 'z' then some (0, r)
      else if c = '+' ∨ c = '-' ∨ c = '−' then do
        let (hours, r) ← twoDigits r
        let (minutes, r) ← twoDigits (r.dropWhile (fun c ↦ c = ':' || isBlank c))
        if 59 < minutes then none
        let seconds : Int := hours * 3600 + minutes * 60
        return (if c = '+' then seconds else -seconds, r)
      else none

/-- The instant of a local date and time of day with its offset from UTC; second 60 is a leap
second. -/
def instantOf? (date : Date) (hour minute second nanos : Nat) (offset : Int) : Option Instant :=
  if date.Valid ∧ hour ≤ 23 ∧ minute ≤ 59 ∧ second ≤ 60 ∧ -86400 < offset ∧ offset < 86400 then
    let whole := if second = 60 then 59 else second
    let nanos := if second = 60 then nanos + 1000000000 else nanos
    let t : Instant := ⟨date.toDays * 86400 + (hour * 3600 + minute * 60 + whole : Nat) - offset, nanos⟩
    if t.InCalendar then some t else none
  else none

def readChars? (l : List Char) : Option Instant := do
  let (y, l) ← year l
  let l ← literal ['-'] (trimLeft l)
  let (m, l) ← field l
  let l ← literal ['-'] (trimLeft l)
  let (d, l) ← field l
  let l ← literal ['T', 't', ' '] l
  let (hour, l) ← field l
  let l ← literal [':'] (trimLeft l)
  let (minute, l) ← field l
  let l ← literal [':'] (trimLeft l)
  let (second, l) ← field l
  let (nanos, l) ← fraction l
  let (offset, l) ← offset (trimLeft l)
  if (trimLeft l).isEmpty then instantOf? ⟨y, m, d⟩ hour minute second nanos offset else none

def read? (s : String) : Option Instant := readChars? s.toList

def padded (width n : Nat) : List Char :=
  let ds := Nat.toDigits 10 n
  List.replicate (width - ds.length) '0' ++ ds

def yearChars (y : Int) : List Char :=
  if 0 ≤ y ∧ y ≤ 9999 then padded 4 y.toNat
  else (if y < 0 then '-' else '+') :: padded 4 y.natAbs

def fractionChars (nanos : Nat) : List Char :=
  if nanos = 0 then []
  else if nanos % 1000000 = 0 then '.' :: padded 3 (nanos / 1000000)
  else if nanos % 1000 = 0 then '.' :: padded 6 (nanos / 1000)
  else '.' :: padded 9 nanos

def renderChars (t : Instant) : List Char :=
  let date := Date.ofDays (t.seconds.fdiv 86400)
  let time := t.secondOfDay.toNat
  let leap := 1000000000 ≤ t.nanos
  let second := if leap then time % 60 + 1 else time % 60
  yearChars date.year ++ '-' :: padded 2 date.month ++ '-' :: padded 2 date.day ++
    'T' :: padded 2 (time / 3600) ++ ':' :: padded 2 (time / 60 % 60) ++ ':' :: padded 2 second ++
    fractionChars (if leap then t.nanos - 1000000000 else t.nanos) ++ ['Z']

def render (t : Instant) : String := String.ofList (renderChars t)

end FlowCorrelation.Timestamp
