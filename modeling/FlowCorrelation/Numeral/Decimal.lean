import FlowCorrelation.Numeral.Double

namespace FlowCorrelation.Numeral

/-- The number `digits * 10 ^ exponent`, with a sign. -/
structure Decimal where
  negative : Bool
  digits : Nat
  exponent : Int
deriving DecidableEq, Repr

def digitChars (n : Nat) : List Char := Nat.toDigits 10 n

/-- How many decimal places the integer part of `m * 2 ^ q` takes; negative for a small number. -/
def decimalMagnitude (m : Nat) (q : Int) : Int :=
  ((digitChars (Fraction.scaled m q 400).floor).length : Int) - 400

def Decimal.normalized (d : Decimal) : Decimal :=
  go (digitChars d.digits).length d
where
  go : Nat → Decimal → Decimal
    | 0, d => d
    | n + 1, d =>
      if d.digits % 10 = 0 ∧ d.digits ≠ 0 then go n { d with digits := d.digits / 10, exponent := d.exponent + 1 }
      else d

/-- The point of the grid of step `10 ^ k` that lies nearest to `m * 2 ^ q` among its two
neighbours there that round to the same double; of two equally near, the greater. -/
def nearestOnGrid (m : Nat) (q k : Int) : Option Nat :=
  let below := if m = hiddenBit ∧ -1074 < q then 1 else 2
  let unit := Fraction.scaled 1 (q - 2) (-k)
  let value := 4 * m * unit.num
  let low := (4 * m - below) * unit.num
  let high := (4 * m + 2) * unit.num
  let within (c : Nat) : Bool :=
    if m % 2 = 0 then low ≤ c * unit.den && c * unit.den ≤ high
    else low < c * unit.den && c * unit.den < high
  let c := value / unit.den
  match within c, within (c + 1) with
  | true, true => some (if 2 * (value % unit.den) < unit.den then c else c + 1)
  | true, false => some c
  | false, true => some (c + 1)
  | false, false => none

def Decimal.shortest (negative : Bool) (m : Nat) (q : Int) : Decimal :=
  if m = 0 then ⟨negative, 0, 0⟩
  else
    let top := decimalMagnitude m q
    let hit := (List.range 17).findSome? (fun n ↦
      let k := top - (n + 1 : Nat)
      (nearestOnGrid m q k).map (fun c ↦ Decimal.normalized ⟨negative, c, k⟩))
    hit.getD ⟨negative, (Fraction.scaled m q (17 - top)).roundEven, top - 17⟩

/-- The exact value rounded to `n` significant digits; a tie goes to the even digit. -/
def Decimal.significant (n : Nat) (negative : Bool) (m : Nat) (q : Int) : Decimal :=
  if m = 0 then ⟨negative, 0, 0⟩
  else
    let k := decimalMagnitude m q - n
    ⟨negative, (Fraction.scaled m q (-k)).roundEven, k⟩

def Decimal.toFloat (d : Decimal) : Float :=
  let places := ((digitChars d.digits).length : Int) + d.exponent
  let magnitude : Float :=
    if d.digits = 0 ∨ places < -400 then 0.0
    else if 400 < places then 1.0 / 0.0
    else if d.exponent < 0 then Float.ofScientific d.digits true (-d.exponent).toNat
    else Float.ofScientific d.digits false d.exponent.toNat
  if d.negative then -magnitude else magnitude

def zeros (n : Nat) : List Char := List.replicate n '0'

def signChars (negative : Bool) : List Char := if negative then ['-'] else []

def withPoint (n places : Nat) : List Char :=
  let ds := digitChars n
  let ds := zeros (places + 1 - ds.length) ++ ds
  if places = 0 then ds else ds.take (ds.length - places) ++ '.' :: ds.drop (ds.length - places)

def Decimal.positional (d : Decimal) : List Char :=
  signChars d.negative ++
    (if 0 ≤ d.exponent then digitChars d.digits ++ (if d.digits = 0 then [] else zeros d.exponent.toNat)
     else withPoint d.digits (-d.exponent).toNat)

/-- The shortest digits, never with an exponent, and an integer without a point. -/
def plain (x : Float) : String :=
  match Double.ofFloat x with
  | .notANumber => "NaN"
  | .infinite negative => String.ofList (signChars negative ++ "inf".toList)
  | .finite negative m q => String.ofList (Decimal.shortest negative m q).positional

/-- The exact value rounded to the given number of decimal places; a tie goes to the even digit. -/
def fixed (places : Nat) (x : Float) : String :=
  match Double.ofFloat x with
  | .notANumber => "NaN"
  | .infinite negative => String.ofList (signChars negative ++ "inf".toList)
  | .finite negative m q =>
    String.ofList (signChars negative ++ withPoint (Fraction.scaled m q places).roundEven places)

/-- The text of a decimal: positional from `10 ^ -5` up to `10 ^ 16`, with a point in every
number, and with an exponent outside that range. -/
def Decimal.compact (d : Decimal) : List Char :=
  let ds := digitChars d.digits
  let point : Int := ds.length + d.exponent
  if d.digits = 0 then signChars d.negative ++ "0.0".toList
  else if 0 ≤ d.exponent ∧ point ≤ 16 then d.positional ++ ".0".toList
  else if -5 < point ∧ point ≤ 16 then d.positional
  else
    signChars d.negative ++
      (match ds with
       | [] => []
       | [c] => [c]
       | c :: r => c :: '.' :: r) ++ 'e' :: (toString (point - 1)).toList

def compact (x : Float) : Option String :=
  match Double.ofFloat x with
  | .finite negative m q => some (String.ofList (Decimal.shortest negative m q).compact)
  | _ => none

end FlowCorrelation.Numeral
