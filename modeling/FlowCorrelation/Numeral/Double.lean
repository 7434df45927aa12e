namespace FlowCorrelation.Numeral

/-- What a double stands for. -/
inductive Double where
  | finite (negative : Bool) (mantissa : Nat) (exponent : Int)
  | infinite (negative : Bool)
  | notANumber
deriving DecidableEq, Repr

def signBit (bits : Nat) : Bool := decide (0x8000000000000000 ≤ bits)

def hiddenBit : Nat := 0x10000000000000

def Double.ofBits (bits : Nat) : Double :=
  let e : Nat := bits / hiddenBit % 0x800
  let m : Nat := bits % hiddenBit
  if e = 2047 then (if m = 0 then .infinite (signBit bits) else .notANumber)
  else if e = 0 then .finite (signBit bits) m (-1074)
  else .finite (signBit bits) (m + hiddenBit) ((e : Int) - 1075)

def Double.ofFloat (x : Float) : Double := Double.ofBits x.toBits.toNat

structure Fraction where
  num : Nat
  den : Nat
deriving DecidableEq, Repr

def Fraction.scaled (m : Nat) (q k : Int) : Fraction :=
  ⟨m * Nat.pow 2 q.toNat * Nat.pow 10 k.toNat, Nat.pow 2 (-q).toNat * Nat.pow 10 (-k).toNat⟩

def Fraction.floor (f : Fraction) : Nat := f.num / f.den

/-- The nearest natural number; of two, the even one. -/
def Fraction.roundEven (f : Fraction) : Nat :=
  let n := f.num / f.den
  let twice := 2 * (f.num % f.den)
  if twice < f.den then n
  else if f.den < twice then n + 1
  else if n % 2 = 0 then n else n + 1

/-- The nearest integer to a double; of two, the one farther from zero. -/
def roundAway (negative : Bool) (m : Nat) (q : Int) : Int :=
  let f := Fraction.scaled m q 0
  let n := (2 * f.num + f.den) / (2 * f.den)
  if negative then -(n : Int) else n

end FlowCorrelation.Numeral
