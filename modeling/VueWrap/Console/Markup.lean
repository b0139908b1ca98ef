import VueWrap.Console.Emoji
import VueWrap.Console.Literal
import VueWrap.Console.Style
import VueWrap.Failure
import VueWrap.Text.Quoted

/-! # Marked text

A printed text may hold tags in brackets, which set styles or actions and are not
shown. A tag begins with a small letter or one of three signs; other brackets
stand for themselves. A closing tag needs an open one that names the same style,
or any open one if it has no name. Backslashes before a tag keep it from being one.
Between tags, names of emoji stand for the emoji.
-/

namespace VueWrap.Console

inductive Piece where
  /-- Text between tags. -/
  | text (cs : List Char)
  /-- Backslashes before a tag, or a tag that is shown. -/
  | escaped (cs : List Char)
  | tag (cs : List Char)
deriving DecidableEq, Repr

def beginsTag (c : Char) : Bool := c.isLower || c == '#' || c == '/' || c == '@'

/-- The tag after an opening bracket, and what follows its closing bracket. -/
def tagAfter? : List Char → Option (List Char × List Char)
  | [] => none
  | c :: cs =>
    if beginsTag c then
      let body := cs.takeWhile fun x => x != ']' && x != '['
      match cs.drop body.length with
      | ']' :: rest => some (c :: body, rest)
      | _ => none
    else none

/-- Some backslashes and a tag after them, and what follows. -/
def escapedTag? (cs : List Char) : Option (Nat × List Char × List Char) :=
  let slashes := (cs.takeWhile (· == '\\')).length
  match cs.drop slashes with
  | '[' :: after => (tagAfter? after).map fun t => (slashes, t.1, t.2)
  | _ => none

/-- The pieces that a tag after `slashes` backslashes makes: two of them are one that is shown,
and an odd one shows the tag. -/
def tagPieces (slashes : Nat) (tag : List Char) : List Piece :=
  [.escaped (List.replicate (slashes / 2) '\\'),
    if slashes % 2 = 1 then .escaped ('[' :: tag ++ [']']) else .tag tag]

def consText (c : Char) : List Piece → List Piece
  | .text cs :: ps => .text (c :: cs) :: ps
  | ps => .text [c] :: ps

/-- The pieces of a marked text; `fuel` bounds its length. -/
def piecesWithin : Nat → List Char → List Piece
  | 0, _ => []
  | _ + 1, [] => []
  | fuel + 1, c :: cs =>
    match escapedTag? (c :: cs) with
    | some (slashes, tag, rest) => tagPieces slashes tag ++ piecesWithin fuel rest
    | none =>
      match c, cs with
      | '\\', '[' :: rest => consText '[' (piecesWithin fuel rest)
      | _, _ => consText c (piecesWithin fuel cs)

def pieces (cs : List Char) : List Piece :=
  if cs.contains '[' then piecesWithin cs.length cs else [.text cs]

structure Glyph where
  char : Char
  /-- How many tags come before it. -/
  run : Nat
  /-- A tag is open around it. -/
  styled : Bool
  /-- The styles of the tags around it can be read. -/
  legible : Bool

/-- A text with glyphs, and whether all its styles can be read. -/
structure Marked where
  glyphs : List Glyph
  legible : Bool

/-- A tag by the normal form of its name, with what follows an equals sign. -/
structure Tag where
  name : List Char
  parameters : Option (List Char)

namespace Tag

def split (cs : List Char) : List Char × Option (List Char) :=
  let name := cs.takeWhile (· != '=')
  match cs.drop name.length with
  | _ :: parameters => (name, some parameters)
  | [] => (name, none)

def normalName (cs : List Char) : Except Failure (List Char) :=
  match Style.normalForm cs with
  | .ok name => .ok name
  | .error _ => .error .badContent

/-- A tag that names an action instead of a style. -/
def isAction (t : Tag) : Bool := t.name.head? = some '@'

/-- The style of a tag, unless there is a number in it that cannot be read. -/
def isLegible (t : Tag) : Bool :=
  let text := match t.parameters with
    | none => t.name
    | some parameters => t.name ++ ' ' :: parameters
  match Style.read text with
  | .error .number => false
  | _ => true

def isActionChar (c : Char) : Bool :=
  c.isAlphanum || c == '_' || c == '.' || (0x80 ≤ c.toNat && !Text.isHidden c && !Text.isBlank c)

/-- The arguments in the parameters of an action: what stands in parentheses after its name, or all
of them. -/
def arguments (parameters : List Char) : List Char :=
  let cs := Text.trimBlanks parameters
  let rest := cs.dropWhile isActionChar
  if rest.isEmpty then ['(', ')']
  else if rest.head? = some '(' && rest.getLast? = some ')' && 1 < rest.length &&
      !rest.contains '\n' then rest
  else cs

/-- The arguments of an action are literals, if there are any. -/
def hasArguments (t : Tag) : Bool :=
  match t.parameters with
  | none => true
  | some parameters => parameters.isEmpty || Literal.isLiteral (arguments parameters)

end Tag

/-- The open tag that a closing one ends, and those that stay open. -/
def close? (name : List Char) : List Tag → Option (Tag × List Tag)
  | [] => none
  | t :: ts =>
    if name.isEmpty || t.name = name then some (t, ts)
    else (close? name ts).map fun r => (r.1, t :: r.2)

def isSilent (c : Char) : Bool :=
  let n := c.toNat
  n = 7 || n = 8 || n = 11 || n = 12 || n = 13

/-- A text between tags: emoji for their names, and no silent controls. -/
def glyphs (opened : List Tag) (run : Nat) (cs : List Char) : List Glyph :=
  ((Emoji.replaced cs).filter (!isSilent ·)).map fun c =>
    ⟨c, run, !opened.isEmpty, opened.all Tag.isLegible⟩

def Marked.after (m : Marked) (gs : List Glyph) (legible : Bool) : Marked :=
  ⟨gs ++ m.glyphs, legible && m.legible⟩

/-- What pieces show after `run` tags, with the tags `opened` open before them, the last one
first. -/
def shown (opened : List Tag) (run : Nat) : List Piece → Except Failure Marked
  | [] => .ok ⟨[], opened.all Tag.isLegible⟩
  | .text cs :: ps => do return (← shown opened run ps).after (glyphs opened run cs) true
  | .escaped cs :: ps => do return (← shown opened run ps).after (glyphs opened run cs) true
  | .tag cs :: ps =>
    match Tag.split cs with
    | ('/' :: name, _) => do
      let name := Text.trimBlanks name
      let name ← if name.isEmpty then .ok [] else Tag.normalName name
      match close? name opened with
      | none => .error .markup
      | some (t, rest) =>
        if t.isAction then
          if t.hasArguments then shown rest (run + 1) ps else .error .markup
        else return (← shown rest (run + 1) ps).after [] t.isLegible
    | (name, parameters) => do
      let name ← Tag.normalName name
      shown (⟨name, parameters⟩ :: opened) (run + 1) ps

def marked (s : String) : Except Failure Marked := shown [] 0 (pieces s.toList)

end VueWrap.Console
