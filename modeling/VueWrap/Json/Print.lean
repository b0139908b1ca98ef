import VueWrap.Decimal.Shortest
import VueWrap.Json.Escape
import VueWrap.Json.Value

/-! # Written JSON

The text of a value, on one line or with every item on a line of its own.
Characters beyond ASCII stand as they are; only quotation marks, backslashes
and controls are escaped.
-/

namespace VueWrap.Json

def numberNames : Double.Names := ⟨"NaN", "Infinity"⟩

def escapeChar (c : Char) : List Char :=
  match letters.letter? c with
  | some l => ['\\', l]
  | none => if c.toNat < 32 then '\\' :: 'u' :: Text.hexDigits 4 c.toNat else [c]

def printString (s : String) : List Char :=
  '"' :: s.toList.flatMap escapeChar ++ ['"']

def printInt (n : Int) : List Char :=
  if n < 0 then '-' :: Nat.toDigits 10 n.natAbs else Nat.toDigits 10 n.natAbs

def printScalar : Value → List Char
  | .bool true => ['t', 'r', 'u', 'e']
  | .bool false => ['f', 'a', 'l', 's', 'e']
  | .int n => printInt n
  | .float x => x.text numberNames
  | _ => ['n', 'u', 'l', 'l']

/-- Where items go: one after the other, or each on a line that begins with `unit` for every list
or object around it. -/
inductive Layout where
  | inline
  | block (unit : List Char)

/-- Lines that are moved to the right by `width` places for every list or object around them. -/
def Layout.spaced (width : Nat) : Layout := .block (List.replicate width ' ')

def Layout.break (l : Layout) (depth : Nat) : List Char :=
  match l with
  | .inline => []
  | .block unit => '\n' :: (List.replicate depth unit).flatten

def Layout.comma (l : Layout) (depth : Nat) : List Char :=
  match l with
  | .inline => [',', ' ']
  | .block _ => ',' :: l.break depth

mutual

def printAt (l : Layout) (depth : Nat) : Value → List Char
  | .str s => printString s
  | .arr [] => ['[', ']']
  | .arr (v :: vs) =>
    '[' :: l.break (depth + 1) ++ printAt l (depth + 1) v ++ printItems l (depth + 1) vs ++
      l.break depth ++ [']']
  | .obj [] => ['{', '}']
  | .obj ((k, v) :: fs) =>
    '{' :: l.break (depth + 1) ++ (printString k ++ ':' :: ' ' :: printAt l (depth + 1) v) ++
      printFields l (depth + 1) fs ++ l.break depth ++ ['}']
  | v => printScalar v

def printItems (l : Layout) (depth : Nat) : List Value → List Char
  | [] => []
  | v :: vs => l.comma depth ++ printAt l depth v ++ printItems l depth vs

def printFields (l : Layout) (depth : Nat) : List (String × Value) → List Char
  | [] => []
  | (k, v) :: fs =>
    l.comma depth ++ (printString k ++ ':' :: ' ' :: printAt l depth v) ++ printFields l depth fs

end

mutual

/-- No integer in the value has too many digits. -/
def isWritable : Value → Bool
  | .int n => (Nat.toDigits 10 n.natAbs).length ≤ maxDigits
  | .arr vs => itemsWritable vs
  | .obj fs => fieldsWritable fs
  | _ => true

def itemsWritable : List Value → Bool
  | [] => true
  | v :: vs => isWritable v && itemsWritable vs

def fieldsWritable : List (String × Value) → Bool
  | [] => true
  | (_, v) :: fs => isWritable v && fieldsWritable fs

end

def print (v : Value) : List Char := printAt .inline 0 v

def printBlock (width : Nat) (v : Value) : List Char := printAt (.spaced width) 0 v

def writeIn (l : Layout) (v : Value) : String := String.ofList (printAt l 0 v)

def write (v : Value) : String := String.ofList (print v)

def writeBlock (width : Nat) (v : Value) : String := String.ofList (printBlock width v)

end VueWrap.Json
