/-! # Binary floating-point numbers

A number of 64 bits: a sign, an exponent of 11 bits and a fraction of 52 bits.
A finite number is its mantissa times a power of two; decimal numerals are read
to the nearest number, a tie going to the even mantissa.
-/

namespace VueWrap

structure Double where
  bits : UInt64
deriving DecidableEq, Repr

namespace Double

def twoTo (n : Nat) : Nat := Nat.pow 2 n

def tenTo (n : Nat) : Nat := Nat.pow 10 n

def negative (x : Double) : Bool := twoTo 63 ≤ x.bits.toNat

def magnitude (x : Double) : Nat := x.bits.toNat % twoTo 63

def field (x : Double) : Nat := x.magnitude / twoTo 52

def fraction (x : Double) : Nat := x.magnitude % twoTo 52

def isNaN (x : Double) : Bool := x.field = 2047 && x.fraction ≠ 0

def isInfinite (x : Double) : Bool := x.field = 2047 && x.fraction = 0

/-- A finite number is `mantissa * 2 ^ exponent`. -/
def mantissa (x : Double) : Nat := if x.field = 0 then x.fraction else twoTo 52 + x.fraction

def exponent (x : Double) : Int := if x.field = 0 then -1074 else (x.field : Int) - 1075

def isZero (x : Double) : Bool := x.magnitude = 0

def ofMagnitude (negative : Bool) (n : Nat) : Double :=
  ⟨UInt64.ofNat (n + if negative then twoTo 63 else 0)⟩

def nan : Double := ofMagnitude false (2047 * twoTo 52 + twoTo 51)

def infinity (negative : Bool) : Double := ofMagnitude negative (2047 * twoTo 52)

/-- A quotient rounded to the nearest integer, a tie to the even one. -/
def roundEven (num den : Nat) : Nat :=
  let whole := num / den
  let rest := 2 * (num % den)
  if rest < den then whole
  else if den < rest then whole + 1
  else if whole % 2 = 0 then whole else whole + 1

/-- The quotient `num / den / 2 ^ q` as one of integers. -/
def scaled (num den : Nat) (q : Int) : Nat × Nat :=
  if 0 ≤ q then (num, den * twoTo q.toNat) else (num * twoTo (-q).toNat, den)

/-- The power of two whose multiples are the numbers around `num / den`. -/
def unitOf (num den : Nat) : Int :=
  let guess : Int := (num.log2 : Int) - den.log2 - 53
  let (n, d) := scaled num den guess
  max (if twoTo 53 ≤ n / d then guess + 1 else guess) (-1074)

def ofQuotient (negative : Bool) (num den : Nat) : Double :=
  let q := unitOf num den
  let (n, d) := scaled num den q
  let m := roundEven n d
  let magnitude := if m < twoTo 52 then m else (q + 1075).toNat * twoTo 52 + (m - twoTo 52)
  if 2047 * twoTo 52 ≤ magnitude then infinity negative else ofMagnitude negative magnitude

def digitCount (n : Nat) : Nat := if n = 0 then 0 else (Nat.toDigits 10 n).length

/-- The number nearest to `digits * 10 ^ exp`. -/
def ofDecimal (negative : Bool) (digits : Nat) (exp : Int) : Double :=
  if digits = 0 then ofMagnitude negative 0
  else if 400 < exp then infinity negative
  else if exp + digitCount digits < -400 then ofMagnitude negative 0
  else if 0 ≤ exp then ofQuotient negative (digits * tenTo exp.toNat) 1
  else ofQuotient negative digits (tenTo (-exp).toNat)

def toQuotient (x : Double) : Int × Nat :=
  let m : Int := if x.negative then -x.mantissa else x.mantissa
  if 0 ≤ x.exponent then (m * twoTo x.exponent.toNat, 1) else (m, twoTo (-x.exponent).toNat)

/-- Equality of values: both zeros are equal, and a number that is not one equals nothing. -/
def equal (x y : Double) : Bool :=
  !x.isNaN && !y.isNaN && (x.bits = y.bits || (x.isZero && y.isZero))

def equalInt (x : Double) (n : Int) : Bool :=
  !x.isNaN && !x.isInfinite && (x.toQuotient.1 = n * x.toQuotient.2)

end Double

end VueWrap
