import VueWrap.Assoc
import VueWrap.Json.Escape
import VueWrap.Json.Value
import VueWrap.Text.Bytes

/-! # Reading JSON

A reader takes the characters of one item from the front and returns the rest.
Where the text is refused, the rest at that place is kept, so that the line and
the column can be told. Beside the standard texts the reader knows the numbers
that are none; an object with a repeated key keeps the place of the first and
the value of the last.
-/

namespace VueWrap.Json

inductive Problem where
  | value
  | name
  | colon
  | comma
  | extra
  | control
  | escape
  | unicodeEscape
  | unterminated
  | byteOrderMark
deriving DecidableEq, Repr

def Problem.message : Problem → String
  | value => "Expecting value"
  | name => "Expecting property name enclosed in double quotes"
  | colon => "Expecting ':' delimiter"
  | comma => "Expecting ',' delimiter"
  | extra => "Extra data"
  | control => "Invalid control character at"
  | escape => "Invalid \\escape"
  | unicodeEscape => "Invalid \\uXXXX escape"
  | unterminated => "Unterminated string starting at"
  | byteOrderMark => "Unexpected UTF-8 BOM (decode using utf-8-sig)"

/-- Why reading stops: a problem at the place before `rest`, or an integer with too many digits. -/
inductive Refusal where
  | problem (p : Problem) (rest : List Char)
  | longInteger
deriving DecidableEq, Repr

/-- The result of reading an item: the item and what follows it. -/
abbrev Reading (α : Type) := Except Refusal (α × List Char)

def isSpace (c : Char) : Bool := c == ' ' || c == '\t' || c == '\n' || c == '\r'

def skip (cs : List Char) : List Char := cs.dropWhile isSpace

def hexValue? (c : Char) : Option Nat :=
  if '0' ≤ c ∧ c ≤ '9' then some (c.toNat - 48)
  else if 'a' ≤ c ∧ c ≤ 'f' then some (c.toNat - 87)
  else if 'A' ≤ c ∧ c ≤ 'F' then some (c.toNat - 55)
  else none

def hexNumber? (a b c d : Char) : Option Nat :=
  match hexValue? a, hexValue? b, hexValue? c, hexValue? d with
  | some a, some b, some c, some d => some (((a * 16 + b) * 16 + c) * 16 + d)
  | _, _, _, _ => none

/-- The code unit after `\u`, for which one more character must follow. -/
def codeUnit (cs : List Char) : Reading Nat :=
  match cs with
  | a :: b :: c :: d :: e :: rest =>
    match hexNumber? a b c d with
    | some n => .ok (n, e :: rest)
    | none => .error (.problem .unicodeEscape ('u' :: cs))
  | _ => .error (.problem .unicodeEscape ('u' :: cs))

def isHighUnit (n : Nat) : Bool := 0xd800 ≤ n && n ≤ 0xdbff

def isLowUnit (n : Nat) : Bool := 0xdc00 ≤ n && n ≤ 0xdfff

/-- What is written after `\u`: one code unit, or a pair of them. -/
def unicodePoint (cs : List Char) : Reading Text.Point :=
  match codeUnit cs with
  | .error e => .error e
  | .ok (n, rest) =>
    if isHighUnit n then
      match rest with
      | '\\' :: 'u' :: a :: b :: c :: d :: e :: rest' =>
        match codeUnit (a :: b :: c :: d :: e :: rest') with
        | .error err => .error err
        | .ok (m, rest'') =>
          if isLowUnit m then
            .ok (.char (Char.ofNat (0x10000 + (n - 0xd800) * 0x400 + (m - 0xdc00))), rest'')
          else .ok (.half n, rest)
      | _ => .ok (.half n, rest)
    else .ok (if isLowUnit n then .half n else .char (Char.ofNat n), rest)

/-- The character of a short escape. A slash may have a backslash before it. -/
def shortEscape? (l : Char) : Option Char := if l = '/' then some '/' else letters.charOf? l

/-- The rest of a string after its opening mark; `opened` starts at that mark, and `fuel` exceeds
the characters left. -/
def stringBody (opened : List Char) : Nat → List Char → Reading (List Char)
  | 0, _ => .error (.problem .unterminated opened)
  | _ + 1, [] => .error (.problem .unterminated opened)
  | _ + 1, ['\\'] => .error (.problem .unterminated opened)
  | fuel + 1, c :: cs =>
    if c = '"' then .ok ([], cs)
    else if c = '\\' then
      match cs with
      | [] => .error (.problem .unterminated opened)
      | e :: rest =>
        if e = 'u' then
          match unicodePoint rest with
          | .error err => .error err
          | .ok (p, rest') => (stringBody opened fuel rest').map fun r => (p.chars ++ r.1, r.2)
        else match shortEscape? e with
          | some x => (stringBody opened fuel rest).map fun r => (x :: r.1, r.2)
          | none => .error (.problem .escape (c :: cs))
    else if c.toNat < 32 then .error (.problem .control (c :: cs))
    else (stringBody opened fuel cs).map fun r => (c :: r.1, r.2)

/-- A string; `cs` starts at its opening mark. -/
def readString (fuel : Nat) (cs : List Char) : Reading String :=
  (stringBody cs fuel (cs.drop 1)).map fun r => (String.ofList r.1, r.2)

def decimal (ds : List Char) : Nat := ds.foldl (fun n d => n * 10 + (d.toNat - 48)) 0

def fractionPart (cs : List Char) : List Char × List Char :=
  match cs with
  | '.' :: d :: rest =>
    if d.isDigit then ((d :: rest).takeWhile Char.isDigit, (d :: rest).dropWhile Char.isDigit)
    else ([], cs)
  | _ => ([], cs)

/-- A power of ten: its value, or nothing where no digit follows the mark. -/
def exponentPart (cs : List Char) : Option Int × List Char :=
  match cs with
  | e :: rest =>
    if e = 'e' ∨ e = 'E' then
      let (minus, digits) := match rest with
        | '-' :: r => (true, r)
        | '+' :: r => (false, r)
        | r => (false, r)
      match digits.takeWhile Char.isDigit with
      | [] => (none, cs)
      | ds =>
        let n : Int := decimal ds
        (some (if minus then -n else n), digits.dropWhile Char.isDigit)
    else (none, cs)
  | [] => (none, cs)

/-- The digits before the point: a zero alone, or digits that do not start with one. -/
def wholePart (cs : List Char) : List Char × List Char :=
  match cs with
  | '0' :: rest => (['0'], rest)
  | _ => (cs.takeWhile Char.isDigit, cs.dropWhile Char.isDigit)

def minusSign : List Char → Bool × List Char
  | '-' :: rest => (true, rest)
  | cs => (false, cs)

/-- A number; without fraction and exponent it is an integer. -/
def readNumber (cs : List Char) : Reading Value :=
  let (minus, digits) := minusSign cs
  match wholePart digits with
  | ([], _) => .error (.problem .value cs)
  | (whole, afterWhole) =>
    let (fraction, afterFraction) := fractionPart afterWhole
    let (power, rest) := exponentPart afterFraction
    if fraction.isEmpty && power.isNone then
      if maxDigits < whole.length then .error .longInteger
      else
        let n : Int := decimal whole
        .ok (.int (if minus then -n else n), rest)
    else
      .ok (.float (Double.ofDecimal minus (decimal (whole ++ fraction))
        (power.getD 0 - fraction.length)), rest)

def word? (w : String) (cs : List Char) : Option (List Char) :=
  if w.toList.isPrefixOf cs then some (cs.drop w.length) else none

def words : List (String × Value) :=
  [("null", .null), ("true", .bool true), ("false", .bool false), ("NaN", .float .nan),
    ("Infinity", .float (.infinity false)), ("-Infinity", .float (.infinity true))]

def readScalar (cs : List Char) : Reading Value :=
  match words.findSome? fun w => (word? w.1 cs).map fun rest => (w.2, rest) with
  | some r => .ok r
  | none => readNumber cs

mutual

/-- A value; `fuel` bounds the characters of the text. -/
def readValue : Nat → List Char → Reading Value
  | 0, cs => .error (.problem .value cs)
  | fuel + 1, cs =>
    match cs with
    | '"' :: _ => (readString fuel cs).map fun r => (.str r.1, r.2)
    | '{' :: rest =>
      match skip rest with
      | '}' :: rest' => .ok (.obj [], rest')
      | rest' => (readFields fuel rest').map fun r => (.obj (Assoc.ofList Assoc.sameText r.1), r.2)
    | '[' :: rest =>
      match skip rest with
      | ']' :: rest' => .ok (.arr [], rest')
      | rest' => (readItems fuel rest').map fun r => (.arr r.1, r.2)
    | _ => readScalar cs

def readItems : Nat → List Char → Reading (List Value)
  | 0, cs => .error (.problem .value cs)
  | fuel + 1, cs =>
    match readValue fuel cs with
    | .error e => .error e
    | .ok (v, rest) =>
      match skip rest with
      | ']' :: rest' => .ok ([v], rest')
      | ',' :: rest' => (readItems fuel (skip rest')).map fun r => (v :: r.1, r.2)
      | rest' => .error (.problem .comma rest')

def readFields : Nat → List Char → Reading (List (String × Value))
  | 0, cs => .error (.problem .name cs)
  | fuel + 1, cs =>
    match cs with
    | '"' :: _ =>
      match readString fuel cs with
      | .error e => .error e
      | .ok (k, rest) =>
        match skip rest with
        | ':' :: rest' =>
          match readValue fuel (skip rest') with
          | .error e => .error e
          | .ok (v, rest'') =>
            match skip rest'' with
            | '}' :: r => .ok ([(k, v)], r)
            | ',' :: r => (readFields fuel (skip r)).map fun r => ((k, v) :: r.1, r.2)
            | r => .error (.problem .comma r)
        | rest' => .error (.problem .colon rest')
    | _ => .error (.problem .name cs)

end

def readAll (cs : List Char) : Except Refusal Value :=
  if cs.head? = some (Char.ofNat 0xfeff) then .error (.problem .byteOrderMark cs)
  else
    match readValue (cs.length + 1) (skip cs) with
    | .error e => .error e
    | .ok (v, rest) =>
      match skip rest with
      | [] => .ok v
      | rest' => .error (.problem .extra rest')

/-- A problem with its place: line and column from one, offset from zero. -/
structure Fault where
  problem : Problem
  line : Nat
  column : Nat
  offset : Nat
deriving DecidableEq, Repr

def Fault.at (problem : Problem) (text rest : List Char) : Fault :=
  let before := Text.points (text.take (text.length - rest.length))
  { problem
    line := before.count (.char '\n') + 1
    column := (before.reverse.takeWhile (· != .char '\n')).length + 1
    offset := before.length }

def Fault.message (f : Fault) : String :=
  s!"{f.problem.message}: line {f.line} column {f.column} (char {f.offset})"

/-- Why a text is no JSON: a fault at a place, or an integer with too many digits. -/
inductive ReadError where
  | fault (f : Fault)
  | longInteger
deriving DecidableEq, Repr

def read (s : String) : Except ReadError Value :=
  match readAll s.toList with
  | .ok v => .ok v
  | .error (.problem p rest) => .error (.fault (Fault.at p s.toList rest))
  | .error .longInteger => .error .longInteger

end VueWrap.Json
