import VueWrap.Decimal.Double
import VueWrap.Text.Bytes

/-! # JSON values

Integers and floating-point numbers are told apart, integers are unbounded, and
the fields of an object keep their order. A value may be empty, may be run
through item by item, and has an equality in which numbers and truth values of
one size are equal.
-/

namespace VueWrap

inductive Value where
  | null
  | bool (b : Bool)
  | int (n : Int)
  | float (x : Double)
  | str (s : String)
  | arr (items : List Value)
  | obj (fields : List (String × Value))
deriving Inhabited

namespace Value

/-- Null, false, zero, and an empty text, list or object. -/
def isEmpty : Value → Bool
  | null => true
  | bool b => !b
  | int n => n = 0
  | float x => x.isZero
  | str s => s.isEmpty
  | arr items => items.isEmpty
  | obj fields => fields.isEmpty

def holds (v : Value) : Bool := !v.isEmpty

/-- The values met when the value is run through: items, characters, or keys. -/
def items? : Value → Option (List Value)
  | arr items => some items
  | str s => some ((Text.points s.toList).map fun p => str (String.ofList p.chars))
  | obj fields => some (fields.map fun f => str f.1)
  | _ => none

/-- Lists and objects cannot be keys. -/
def isKey : Value → Bool
  | arr _ => false
  | obj _ => false
  | _ => true

def number? : Value → Option (Int ⊕ Double)
  | bool b => some (.inl (if b then 1 else 0))
  | int n => some (.inl n)
  | float x => some (.inr x)
  | _ => none

/-- Equality of numbers. The one value that is no number equals itself. -/
def sameNumber : Int ⊕ Double → Int ⊕ Double → Bool
  | .inl m, .inl n => m = n
  | .inl m, .inr y => y.equalInt m
  | .inr x, .inl n => x.equalInt n
  | .inr x, .inr y => (x.isNaN && y.isNaN) || x.equal y

mutual

/-- Equality of values inside lists and as keys: numbers and truth values by size, objects
without regard to order. -/
def same : Value → Value → Bool
  | null, null => true
  | str s, str t => s = t
  | arr xs, arr ys => sameItems xs ys
  | obj fs, obj gs => fs.length = gs.length && sameFields fs gs
  | v, w => match v.number?, w.number? with
    | some m, some n => sameNumber m n
    | _, _ => false

def sameItems : List Value → List Value → Bool
  | [], [] => true
  | x :: xs, y :: ys => same x y && sameItems xs ys
  | _, _ => false

/-- Every field has an equal one among `gs`. -/
def sameFields : List (String × Value) → List (String × Value) → Bool
  | [], _ => true
  | (k, v) :: fs, gs => (match gs.lookup k with
    | some w => same v w
    | none => false) && sameFields fs gs

end

/-- Equality of two values that stand alone: a value that is no number equals nothing. -/
def equal (v w : Value) : Bool :=
  match v, w with
  | float x, float y => x.equal y
  | _, _ => same v w

def field? (fields : List (String × Value)) (key : String) : Option Value := fields.lookup key

end Value

/-- The most digits of an integer in a text. Values are not bounded, but an integer with more digits
is neither read nor written. -/
def Json.maxDigits : Nat := 4300

end VueWrap
