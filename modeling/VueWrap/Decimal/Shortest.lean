import VueWrap.Decimal.Double

/-! # The shortest decimal numeral of a floating-point number

Of all decimal numerals that are read back to the same number, the ones with
the fewest digits are taken, and of those the nearest. The layout says when the
numeral is written with an exponent.
-/

namespace VueWrap

namespace Double

/-- A numeral: its digits as an integer, and the power of ten of the last one. -/
structure Numeral where
  digits : Nat
  power : Int
deriving DecidableEq, Repr

/-- The factors `(a, b)` with `c * 10 ^ e` to `n * 2 ^ p` as `c * a` to `n * b`. -/
def factors (e p : Int) : Nat × Nat :=
  (tenTo e.toNat * twoTo (-p).toNat, twoTo p.toNat * tenTo (-e).toNat)

/-- The power of ten of the first digit of `num / den`. -/
def leadingPower (num den : Nat) : Int :=
  if den ≤ num then (digitCount (num / den) : Int) - 1
  else -(digitCount ((den + num - 1) / num - 1) : Int)

/-- The numeral with `n` digits that is nearest to `m * 2 ^ q` among those read back to it. -/
def numeralWith? (m : Nat) (q lead : Int) (n : Nat) : Option Numeral :=
  let e := lead - n + 1
  let p := q - 2
  let (a, b) := factors e p
  let low := if m = twoTo 52 ∧ q ≠ -1074 then 4 * m - 1 else 4 * m - 2
  let high := 4 * m + 2
  let inside (c : Nat) : Bool :=
    if m % 2 = 0 then low * b ≤ c * a && c * a ≤ high * b else low * b < c * a && c * a < high * b
  let below := 4 * m * b / a
  let above := below + 1
  if inside below && inside above then
    let left := 4 * m * b - below * a
    let right := above * a - 4 * m * b
    if left < right ∨ (left = right ∧ below % 2 = 0) then some ⟨below, e⟩ else some ⟨above, e⟩
  else if inside below then some ⟨below, e⟩
  else if inside above then some ⟨above, e⟩
  else none

/-- The shortest numeral of a finite number other than zero. -/
def shortest (x : Double) : Numeral :=
  let (num, den) := x.toQuotient
  let lead := leadingPower num.natAbs den
  ((List.range 17).findSome? fun n => numeralWith? x.mantissa x.exponent lead (n + 1)).getD ⟨0, 0⟩

/-- The digits of a number without the zeros at their end. -/
def significant (n : Nat) : List Char :=
  ((Nat.toDigits 10 n).reverse.dropWhile (· == '0')).reverse

/-- The texts of the values that are no numbers. -/
structure Names where
  nan : String
  infinity : String

/-- Positional from `0.0001` up to sixteen digits before the point, else with an exponent of at
least two digits; a whole number keeps one zero after the point. -/
def layout (digits : List Char) (lead : Int) : List Char :=
  if lead < -4 ∨ 16 ≤ lead then
    let body := match digits with
      | [] => []
      | [d] => [d]
      | d :: ds => d :: '.' :: ds
    let size := (Nat.toDigits 10 lead.natAbs)
    let size := if size.length < 2 then '0' :: size else size
    body ++ 'e' :: (if lead < 0 then '-' else '+') :: size
  else if lead < 0 then
    '0' :: '.' :: List.replicate (-lead - 1).toNat '0' ++ digits
  else
    let whole := lead.toNat + 1
    if digits.length ≤ whole then digits ++ List.replicate (whole - digits.length) '0' ++ ['.', '0']
    else digits.take whole ++ '.' :: digits.drop whole

def text (names : Names) (x : Double) : List Char :=
  let sign := if x.negative then ['-'] else []
  if x.isNaN then names.nan.toList
  else if x.isInfinite then sign ++ names.infinity.toList
  else if x.isZero then sign ++ ['0', '.', '0']
  else
    let num := x.shortest
    let lead := num.power + digitCount num.digits - 1
    sign ++ layout (significant num.digits) lead

end Double

end VueWrap
