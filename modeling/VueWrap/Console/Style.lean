import VueWrap.Console.Style.Table
import VueWrap.Text.Case
import VueWrap.Text.Digit
import VueWrap.Text.Integer
import VueWrap.Text.Lines
import VueWrap.Text.Words

/-! # Styles

A style is written in words: attributes, each of which may be switched off by a
`not` before it, a colour, a colour after `on`, and an address after `link`. A
later word overrides an earlier one of its kind. `normalForm` writes styles with the same
effect alike, and a text that is no style in small letters.
-/

namespace VueWrap.Console

/-- Attributes by their names, a colour for the text and one for what is behind it, and an
address. -/
structure Style where
  attributes : List (String × Bool) := []
  colour : Option String := none
  background : Option String := none
  link : Option String := none

namespace Style

def attributeNames : List String :=
  ["bold", "dim", "italic", "underline", "blink", "blink2", "reverse", "conceal", "strike",
    "underline2", "frame", "encircle", "overline"]

def abbreviations : List (String × String) :=
  [("d", "dim"), ("b", "bold"), ("i", "italic"), ("u", "underline"), ("r", "reverse"),
    ("c", "conceal"), ("s", "strike"), ("uu", "underline2"), ("o", "overline")]

def attribute? (word : String) : Option String :=
  if attributeNames.contains word then some word else abbreviations.lookup word

def colourNames : List String :=
  "default" :: colourRows.flatMap fun r => (Text.splitAt ' ' r.toList).map String.ofList

inductive Fault where
  | unknown
  /-- A number in a colour cannot be read. -/
  | number
deriving DecidableEq, Repr

def enclosed? (opening closing : String) (cs : List Char) : Option (List Char) :=
  if opening.toList.isPrefixOf cs && closing.toList.isSuffixOf cs then
    some ((cs.drop opening.length).take (cs.length - opening.length - closing.length))
  else none

def isHexDigit (c : Char) : Bool := c.isDigit || ('a' ≤ c && c ≤ 'f')

def maxPart : Nat := 255

def part (cs : List Char) : Except Fault Bool :=
  match Text.natural? cs with
  | none => .error .number
  | some n => .ok (n ≤ maxPart)

def parts (cs : List Char) : Except Fault Bool :=
  if cs.isEmpty || !cs.all fun c => Text.isDigit c || c == ',' then .ok false
  else match Text.splitAt ',' cs with
    | [red, green, blue] => do
      let r ← part red
      let g ← part green
      let b ← part blue
      return r && g && b
    | _ => .ok false

def isPaletteNumber (cs : List Char) : Bool :=
  1 ≤ cs.length && cs.length ≤ 3 && cs.all Char.isDigit && (Text.natural? cs).any (· ≤ maxPart)

def isColour (word : String) : Except Fault Bool :=
  let cs := word.toList
  if colourNames.contains word then .ok true
  else match cs with
    | '#' :: digits => .ok (digits.length = 6 && digits.all isHexDigit)
    | _ => match enclosed? "color(" ")" cs, enclosed? "rgb(" ")" cs with
      | some number, _ => .ok (isPaletteNumber number)
      | none, some numbers => parts numbers
      | none, none => .ok false

def colourOf (word : String) : Except Fault String := do
  let name := Text.lower word
  if ← isColour name then return name else .error .unknown

/-- The style that some words add to `s`. -/
def readWords (s : Style) : List String → Except Fault Style
  | [] => .ok s
  | word :: rest =>
    match Text.lower word, rest with
    | "on", [] => .error .unknown
    | "on", colour :: rest => do
      let name ← colourOf colour
      readWords { s with background := some name } rest
    | "not", [] => .error .unknown
    | "not", name :: rest => match attribute? name with
      | none => .error .unknown
      | some a => readWords { s with attributes := (a, false) :: s.attributes } rest
    | "link", [] => .error .unknown
    | "link", address :: rest => readWords { s with link := some address } rest
    | name, rest => match attribute? name with
      | some a => readWords { s with attributes := (a, true) :: s.attributes } rest
      | none => do
        let name ← colourOf word
        readWords { s with colour := some name } rest

/-- The style that a text writes; `none` is the plain one. -/
def read (cs : List Char) : Except Fault Style :=
  if Text.trimBlanks cs = "none".toList then .ok {}
  else readWords {} ((Text.words cs).map String.ofList)

def attributeWords (s : Style) (a : String) : List String :=
  match s.attributes.lookup a with
  | none => []
  | some true => [a]
  | some false => ["not", a]

def words (s : Style) : List String :=
  attributeNames.flatMap s.attributeWords ++ s.colour.toList ++
    (s.background.map fun c => ["on", c]).getD [] ++ (s.link.map fun a => ["link", a]).getD []

def text (s : Style) : String :=
  if s.words.isEmpty then "none" else " ".intercalate s.words

/-- The form in which two texts for one style are equal. -/
def normalForm (cs : List Char) : Except Fault (List Char) :=
  match read cs with
  | .ok s => .ok s.text.toList
  | .error .unknown => .ok (Text.small (Text.trimBlanks cs))
  | .error .number => .error .number

end Style

end VueWrap.Console
