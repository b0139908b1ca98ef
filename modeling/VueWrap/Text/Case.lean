import VueWrap.Text.Case.Table
import VueWrap.Text.Ranges

/-! # Small and capital letters

The small form of a text and the capital form of a character, for all of Unicode.
A capital sigma becomes a final sigma where it ends a word.
-/

namespace VueWrap.Text

/-- The small form of a character that does not depend on its neighbours. -/
def smallOf (c : Char) : List Char :=
  if c.toNat < 0x80 then [c.toLower]
  else if c.toNat = 0x130 then ['i', Char.ofNat 0x307]
  else match Case.look Case.toSmall c.toNat with
    | some n => [Char.ofNat n]
    | none => [c]

def capitalOf (c : Char) : List Char :=
  if c.toNat < 0x80 then [c.toUpper]
  else match Case.expansions.lookup c.toNat with
    | some ns => ns.map Char.ofNat
    | none => match Case.look Case.toCapital c.toNat with
      | some n => [Char.ofNat n]
      | none => [c]

/-- The nearest character that is not looked through is a letter with case. -/
def nextCased (cs : List Char) : Bool :=
  match cs.dropWhile (within Case.ignorable) with
  | [] => false
  | c :: _ => within Case.cased c

/-- A sigma with `before` on its left, nearest first, and `after` on its right ends a word. -/
def endsWord (before after : List Char) : Bool := nextCased before && !nextCased after

/-- The small form of `cs` after the characters `before`, nearest first. -/
def smallAfter (before : List Char) : List Char → List Char
  | [] => []
  | c :: cs =>
    (if c = 'Σ' then (if endsWord before cs then ['ς'] else ['σ']) else smallOf c) ++
      smallAfter (c :: before) cs

def small (cs : List Char) : List Char := smallAfter [] cs

def lower (s : String) : String := String.ofList (small s.toList)

def capitalFirst : List Char → List Char
  | [] => []
  | c :: cs => capitalOf c ++ cs

end VueWrap.Text
