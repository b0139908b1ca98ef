import VueWrap.Text.Blank
import VueWrap.Text.Case

/-! # Names of components and files

A component is named after its widget, without the mark that widget names begin
with; its file is named by the words of that name, in small letters with hyphens
between them. `words` gives the words of a name directly, and `kebab` finds them
by marking, squeezing and trimming hyphens.
-/

namespace VueWrap.Naming

/-- The rest of a name after `mark`, or the name itself where it does not begin with it. -/
def dropMark (mark name : List Char) : List Char :=
  if mark.isPrefixOf name then name.drop mark.length else name

def isSmallOrDigit (c : Char) : Bool := c.isLower || c.isDigit

/-- A new word begins between the two characters. -/
def isBoundary (a b : Char) : Bool := isSmallOrDigit a && b.isUpper

def markBoundaries : List Char → List Char
  | [] => []
  | [c] => [c]
  | a :: b :: cs =>
    if isBoundary a b then a :: '-' :: markBoundaries (b :: cs) else a :: markBoundaries (b :: cs)

/-- An underscore or a blank. -/
def isGap (c : Char) : Bool := c == '_' || Text.isBlank c

/-- A hyphen in the place of every run of characters that satisfy `p`. -/
def squeeze (p : Char → Bool) : List Char → List Char
  | [] => []
  | [c] => [if p c then '-' else c]
  | a :: b :: cs =>
    if p a then (if p b then squeeze p (b :: cs) else '-' :: squeeze p (b :: cs))
    else a :: squeeze p (b :: cs)

def trimHyphens (cs : List Char) : List Char :=
  ((cs.dropWhile (· == '-')).reverse.dropWhile (· == '-')).reverse

/-- The name in small letters with hyphens between its words. -/
def kebab (cs : List Char) : List Char :=
  Text.small (trimHyphens (squeeze (· == '-') (squeeze isGap (markBoundaries cs))))

def isSeparator (c : Char) : Bool := c == '-' || isGap c

/-- The pieces of a name between separators and at boundaries, empty ones included. -/
def pieces : List Char → List (List Char)
  | [] => [[]]
  | c :: cs =>
    if isSeparator c then [] :: pieces cs
    else match cs with
      | [] => [[c]]
      | d :: _ =>
        if isBoundary c d then [c] :: pieces cs
        else match pieces cs with
          | [] => [[c]]
          | w :: ws => (c :: w) :: ws

def words (cs : List Char) : List (List Char) := (pieces cs).filter (!·.isEmpty)

/-- The text after its last slash, and what stands before it with the slash. -/
def splitLast (cs : List Char) : List Char × List Char :=
  let tail := cs.reverse.takeWhile (· != '/')
  ((cs.take (cs.length - tail.length)), tail.reverse)

def beforeLastPoint (cs : List Char) : List Char :=
  ((cs.reverse.dropWhile (· != '.')).drop 1).reverse

/-- The path without the extension of its last segment; points at the front of a segment do not
begin an extension. -/
def dropExtension (path : List Char) : List Char :=
  let (head, tail) := splitLast path
  if (tail.dropWhile (· == '.')).contains '.' then head ++ beforeLastPoint tail else path

def withoutMark (mark name : String) : String :=
  String.ofList (dropMark mark.toList name.toList)

def fileStem (name : String) : String := String.ofList (kebab name.toList)

def withoutExtension (path : String) : String := String.ofList (dropExtension path.toList)

end VueWrap.Naming
