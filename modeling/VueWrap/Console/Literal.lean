import VueWrap.Json.Read

/-! # Literals

The values that an action may be given: numbers, with a sign or as the sum of a real
and an imaginary one, texts and bytes between quotation marks, three words, three
points, and tuples, sets and tables of literals. `isLiteral` tells them from everything
else. What changes may be no key, and no item of a set: a set and a table do.
-/

namespace VueWrap.Console.Literal

/-- What matters of a literal to the one around it. -/
inductive Kind where
  | number (signed imaginary : Bool)
  | key
  | keyless
deriving DecidableEq, Repr

def Kind.isKey (k : Kind) : Bool := k != keyless

def Kind.ofTuple (ks : List Kind) : Kind := if ks.all isKey then key else keyless

abbrev Reading := Option (Kind × List Char)

def isSpace (c : Char) : Bool := c == ' ' || c == '\t' || c == '\x0c'

/-- The text without the spaces at its front. Inside brackets, ends of lines and remarks are left
out as well. -/
def skip (inside remark : Bool) : List Char → List Char
  | [] => []
  | '\\' :: '\n' :: cs => skip inside false cs
  | c :: cs =>
    if remark then skip inside (c != '\n') cs
    else if isSpace c || (inside && c == '\n') then skip inside false cs
    else if inside && c == '#' then skip inside true cs
    else c :: cs

def isDone (remark : Bool) : List Char → Bool
  | [] => true
  | c :: cs =>
    if c = '\n' then isDone false cs
    else if remark || isSpace c then isDone remark cs
    else c == '#' && isDone true cs

def digits (p : Char → Bool) : List Char → List Char × List Char
  | c :: '_' :: d :: cs =>
    if p c then
      if p d then
        let more := digits p (d :: cs)
        (c :: more.1, more.2)
      else ([c], '_' :: d :: cs)
    else ([], c :: '_' :: d :: cs)
  | c :: cs =>
    if p c then
      let more := digits p cs
      (c :: more.1, more.2)
    else ([], c :: cs)
  | [] => ([], [])

def isHexDigit (c : Char) : Bool := (Json.hexValue? c).isSome

/-- The digits after a zero and a letter. -/
def base? (c : Char) : Option (Char → Bool) :=
  match c.toLower with
  | 'x' => some isHexDigit
  | 'o' => some fun d => '0' ≤ d && d ≤ '7'
  | 'b' => some fun d => d == '0' || d == '1'
  | _ => none

def inBase (p : Char → Bool) (cs : List Char) : Reading :=
  let cs := match cs with
    | '_' :: rest => rest
    | _ => cs
  match digits p cs with
  | ([], _) => none
  | (_, rest) => some (.number false false, rest)

/-- What follows the power of ten at the front of a text, if there is one. -/
def afterPower? : List Char → Option (List Char)
  | c :: cs =>
    if c.toLower = 'e' then
      let unsigned := match cs with
        | '+' :: rest => rest
        | '-' :: rest => rest
        | _ => cs
      match digits Char.isDigit unsigned with
      | ([], _) => none
      | (_, rest) => some rest
    else none
  | [] => none

/-- Digits that are an integer: no zero stands before other digits, and they are not too many. -/
def isWhole (ds : List Char) : Bool :=
  (ds.head? != some '0' || ds.all (· == '0')) && ds.length ≤ Json.maxDigits

def inTen (cs : List Char) : Reading :=
  let (whole, rest) := digits Char.isDigit cs
  let (fraction?, rest) := match rest with
    | '.' :: rest =>
      let more := digits Char.isDigit rest
      (some more.1, more.2)
    | _ => (none, rest)
  if whole.isEmpty && (fraction?.getD []).isEmpty then none
  else
    let power? := afterPower? rest
    let rest := power?.getD rest
    match rest with
    | 'j' :: rest => some (.number false true, rest)
    | 'J' :: rest => some (.number false true, rest)
    | _ =>
      if fraction?.isSome || power?.isSome || isWhole whole then some (.number false false, rest)
      else none

def number : List Char → Reading
  | '0' :: c :: cs =>
    match base? c with
    | some p => inBase p cs
    | none => inTen ('0' :: c :: cs)
  | cs => inTen cs

/-- How a text is written: raw, where a backslash stands for itself, or as bytes. -/
structure Manner where
  raw : Bool
  bytes : Bool

def manner? (letters : List Char) : Option Manner :=
  match letters.map Char.toLower with
  | [] => some ⟨false, false⟩
  | ['u'] => some ⟨false, false⟩
  | ['r'] => some ⟨true, false⟩
  | ['b'] => some ⟨false, true⟩
  | ['b', 'r'] => some ⟨true, true⟩
  | ['r', 'b'] => some ⟨true, true⟩
  | _ => none

def beginsHex (n : Nat) (cs : List Char) : Bool :=
  n ≤ cs.length && (cs.take n).all isHexDigit

def hexNumber (cs : List Char) : Nat := cs.foldl (fun n c => n * 16 + (Json.hexValue? c).getD 0) 0

def escapeFits (m : Manner) (c : Char) (cs : List Char) : Bool :=
  if m.raw then true
  else if c = 'x' then beginsHex 2 cs
  else if m.bytes then true
  else if c = 'u' then beginsHex 4 cs
  else if c = 'U' then beginsHex 8 cs && hexNumber (cs.take 8) < 0x110000
  else if c = 'N' then cs.head? == some '\x7b' && 1 < (cs.takeWhile (· != '\x7d')).length &&
    cs.contains '\x7d'
  else true

/-- What follows the closing mark of a text. A text in three marks may go on for several lines. -/
def textEnd (m : Manner) (mark : Char) (three : Bool) : List Char → Option (List Char)
  | [] => none
  | '\\' :: c :: cs =>
    if escapeFits m c cs && !(m.bytes && 0x80 ≤ c.toNat) then textEnd m mark three cs else none
  | c :: cs =>
    if c = mark then
      if three then
        match cs with
        | d :: e :: rest => if d = mark && e = mark then some rest else textEnd m mark three cs
        | _ => none
      else some cs
    else if c = '\n' && !three then none
    else if m.bytes && 0x80 ≤ c.toNat then none
    else textEnd m mark three cs

def isMark (c : Char) : Bool := c == '"' || c.toNat == 39

def quotation? (cs : List Char) : Option (Manner × List Char) :=
  let letters := cs.takeWhile Char.isAlpha
  match manner? letters, cs.drop letters.length with
  | some m, c :: rest =>
    if !isMark c then none
    else match rest with
      | d :: e :: rest' =>
        if d = c && e = c then (textEnd m c true rest').map (m, ·)
        else (textEnd m c false rest).map (m, ·)
      | _ => (textEnd m c false rest).map (m, ·)
  | _, _ => none

/-- More quotations of the same kind, which belong to the one before them. -/
def quotations (inside bytes : Bool) : Nat → List Char → Reading
  | 0, _ => none
  | fuel + 1, cs =>
    match quotation? (skip inside false cs) with
    | some (m, rest) => if m.bytes = bytes then quotations inside bytes fuel rest else none
    | none => some (.key, cs)

def wordLiterals : List String := ["True", "False", "None"]

def isWordChar (c : Char) : Bool := c.isAlphanum || c == '_'

/-- A word, or a set without items. -/
def wordLiteral (inside : Bool) (cs : List Char) : Reading :=
  let word := String.ofList (cs.takeWhile isWordChar)
  let rest := cs.dropWhile isWordChar
  if wordLiterals.contains word then some (.key, rest)
  else if word = "set" then
    match skip inside false rest with
    | '(' :: more => match skip true false more with
      | ')' :: rest => some (.keyless, rest)
      | _ => none
    | _ => none
  else none

mutual

/-- A literal that neither signs nor commas divide; `fuel` bounds the depth and the length. -/
def atom (inside : Bool) : Nat → List Char → Reading
  | 0, _ => none
  | fuel + 1, cs =>
    match cs with
    | '.' :: '.' :: '.' :: rest => some (.key, rest)
    | '(' :: rest => match skip true false rest with
      | ')' :: rest => some (.key, rest)
      | rest => match term true fuel rest with
        | some (k, rest) => match skip true false rest with
          | ')' :: rest => some (k, rest)
          | ',' :: rest => (items ')' fuel rest).map fun r => (Kind.ofTuple (k :: r.1), r.2)
          | _ => none
        | none => none
    | '\x7b' :: rest => match skip true false rest with
      | '\x7d' :: rest => some (.keyless, rest)
      | rest => match term true fuel rest with
        | some (k, rest) =>
          if !k.isKey then none
          else match skip true false rest with
            | '\x7d' :: rest => some (.keyless, rest)
            | ',' :: rest => match items '\x7d' fuel rest with
              | some (ks, rest) => if ks.all Kind.isKey then some (.keyless, rest) else none
              | none => none
            | ':' :: rest => match term true fuel rest with
              | some (_, rest) => entries fuel rest
              | none => none
            | _ => none
        | none => none
    | c :: _ =>
      if c.isDigit || c == '.' then number cs
      else match quotation? cs with
        | some (m, rest) => quotations inside m.bytes fuel rest
        | none => wordLiteral inside cs
    | [] => none

def term (inside : Bool) : Nat → List Char → Reading
  | 0, _ => none
  | fuel + 1, cs =>
    let signed : Reading := match skip inside false cs with
      | c :: rest =>
        if c = '+' || c = '-' then
          match atom inside fuel (skip inside false rest) with
          | some (.number false i, rest) => some (.number true i, rest)
          | _ => none
        else atom inside fuel (c :: rest)
      | [] => none
    match signed with
    | some (k, rest) => match skip inside false rest with
      | c :: more =>
        if c = '+' || c = '-' then
          match k, atom inside fuel (skip inside false more) with
          | .number _ false, some (.number false true, rest) => some (.key, rest)
          | _, _ => none
        else some (k, rest)
      | [] => some (k, rest)
    | none => none

/-- Literals with commas between them, up to a closing mark; the last one may have a comma after
it. -/
def items (closing : Char) : Nat → List Char → Option (List Kind × List Char)
  | 0, _ => none
  | fuel + 1, cs =>
    match skip true false cs with
    | c :: rest =>
      if c = closing then some ([], rest)
      else match term true fuel (c :: rest) with
        | some (k, rest) => match skip true false rest with
          | c :: rest =>
            if c = closing then some ([k], rest)
            else if c = ',' then
              (items closing fuel rest).map fun r => (k :: r.1, r.2)
            else none
          | [] => none
        | none => none
    | [] => none

def entries : Nat → List Char → Reading
  | 0, _ => none
  | fuel + 1, cs =>
    match skip true false cs with
    | '\x7d' :: rest => some (.keyless, rest)
    | ',' :: rest => match skip true false rest with
      | '\x7d' :: rest => some (.keyless, rest)
      | rest => match term true fuel rest with
        | some (k, rest) => match skip true false rest with
          | ':' :: rest => match k.isKey, term true fuel rest with
            | true, some (_, rest) => entries fuel rest
            | _, _ => none
          | _ => none
        | none => none
    | _ => none

end

/-- The rest of a text after its first literal: others with commas before them. -/
def isTail : Nat → List Char → Bool
  | 0, _ => false
  | fuel + 1, cs =>
    match skip false false cs with
    | ',' :: rest =>
      isDone false (skip false false rest) || match term false fuel rest with
        | some (_, rest) => isTail fuel rest
        | none => false
    | rest => isDone false rest

def isLiteral (cs : List Char) : Bool :=
  let fuel := 2 * cs.length + 2
  match term false fuel cs with
  | some (_, rest) => isTail fuel rest
  | none => false

end VueWrap.Console.Literal
