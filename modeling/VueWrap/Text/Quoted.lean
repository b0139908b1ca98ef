import VueWrap.Text.Bytes
import VueWrap.Text.Escape
import VueWrap.Text.Quoted.Table
import VueWrap.Text.Ranges

/-! # Quoted texts

A text between quotation marks, with the characters that are not shown written as
escapes. The mark is an apostrophe, or a double quote for a text that has
apostrophes but no double quotes.
-/

namespace VueWrap.Text

def numbered (c : Char) : List Char :=
  if c.toNat < 0x100 then '\\' :: 'x' :: hexDigits 2 c.toNat
  else if c.toNat < 0x10000 then '\\' :: 'u' :: hexDigits 4 c.toNat
  else '\\' :: 'U' :: hexDigits 8 c.toNat

/-- The character is not shown: a control, or one of the hidden ones beyond ASCII. -/
def isHidden (c : Char) : Bool :=
  if c.toNat < 0x80 then c.toNat < 0x20 || c.toNat = 0x7f else within Quoted.hidden c

def quoteChar (mark c : Char) : List Char :=
  if c = mark ∨ c = '\\' then ['\\', c]
  else match Letters.layout.letter? c with
    | some l => ['\\', l]
    | none => if isHidden c then numbered c else [c]

def quotePoint (mark : Char) : Point → List Char
  | .char c => quoteChar mark c
  | .half n => '\\' :: 'u' :: hexDigits 4 n

def apostrophe : Char := Char.ofNat 39

def quoteMark (cs : List Char) : Char :=
  if cs.contains apostrophe && !cs.contains '"' then '"' else apostrophe

def quoted (s : String) : String :=
  let cs := s.toList
  let mark := quoteMark cs
  String.ofList (mark :: (points cs).flatMap (quotePoint mark) ++ [mark])

end VueWrap.Text
