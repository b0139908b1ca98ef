import VueWrap.Text.Blank
import VueWrap.Text.Digit

/-! # Integers in a text

An integer is written in the digits of any script, with underscores between them
and blanks around it if need be.
-/

namespace VueWrap.Text

def isBlankAround (c : Char) : Bool :=
  c == ' ' || (9 ≤ c.toNat && c.toNat ≤ 13) || (0x7f ≤ c.toNat && isBlank c)

/-- The digits of an integer; an underscore may stand between two of them. `afterDigit` tells
whether a digit has just been read. -/
def digits? (afterDigit : Bool) : List Char → Option (List Nat)
  | [] => if afterDigit then some [] else none
  | c :: cs =>
    if c = '_' then (if afterDigit then digits? false cs else none)
    else match digitValue? c with
      | none => none
      | some d => (digits? true cs).map (d :: ·)

def maxDigits : Nat := 4300

def natural? (cs : List Char) : Option Nat :=
  match digits? false cs with
  | none => none
  | some ds => if maxDigits < ds.length then none else some (ds.foldl (fun n d => n * 10 + d) 0)

def trimAround (cs : List Char) : List Char :=
  ((cs.dropWhile isBlankAround).reverse.dropWhile isBlankAround).reverse

def integer? (s : String) : Option Int :=
  match trimAround s.toList with
  | '-' :: cs => (natural? cs).map fun n => -(n : Int)
  | '+' :: cs => (natural? cs).map fun n => (n : Int)
  | cs => (natural? cs).map fun n => (n : Int)

end VueWrap.Text
