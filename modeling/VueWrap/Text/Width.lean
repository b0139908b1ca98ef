import VueWrap.Text.Ranges
import VueWrap.Text.Width.Table

/-! # Width of a text in terminal cells

Most characters take one cell, the wide ones two, marks and controls none. An
emoji selector widens a narrow symbol before it, and a joiner hides the
character after it. Where a text has to be cut, it is cut between graphemes:
characters with all that is attached to them.
-/

namespace VueWrap.Text

def cellsOf (c : Char) : Nat :=
  let n := c.toNat
  if n < 32 then 0
  else if n < 0x7f then 1
  else if n < 0xa0 then 0
  else if within Width.bare c then 0
  else if within Width.wide c then 2
  else 1

def joiner : Char := '\u200d'

def selector : Char := '\ufe0f'

def widens : Option Char → Bool
  | some c => within Width.widened c
  | none => false

/-- The cells of a text, after the last character `last` that took a cell. -/
def cellsAfter (last : Option Char) : List Char → Nat
  | [] => 0
  | c :: cs =>
    if c = joiner then
      match cs with
      | [] => 0
      | _ :: cs' => cellsAfter last cs'
    else if c = selector then (if widens last then 1 else 0) + cellsAfter none cs
    else
      let w := cellsOf c
      w + cellsAfter (if w = 0 then last else some c) cs

def cells (cs : List Char) : Nat := cellsAfter none cs

/-- A character with all that is attached to it, and the cells they take together. -/
structure Grapheme where
  chars : List Char
  cells : Nat

/-- How many characters are attached to the one before them, and how many cells they add to it.
Marks, selectors, and joiners with what they join are attached. -/
def attached (last : Option Char) : List Char → Nat × Nat
  | [] => (0, 0)
  | c :: cs =>
    if c = joiner then
      match cs with
      | [] => (1, 0)
      | _ :: cs' =>
        let more := attached last cs'
        (more.1 + 2, more.2)
    else if c = selector && widens last then
      let more := attached none cs
      (more.1 + 1, more.2 + 1)
    else if cellsOf c = 0 then
      let more := attached last cs
      (more.1 + 1, more.2)
    else (0, 0)

def graphemes : List Char → List Grapheme
  | [] => []
  | c :: cs =>
    let w := cellsOf c
    let more := attached (if w = 0 then none else some c) cs
    ⟨c :: cs.take more.1, w + more.2⟩ :: graphemes (cs.drop more.1)
termination_by cs => cs.length
decreasing_by
  simp only [List.length_drop, List.length_cons]
  omega

/-- No character of a text is lost in its graphemes. -/
theorem flatMap_chars_graphemes (cs : List Char) :
    (graphemes cs).flatMap Grapheme.chars = cs := by
  fun_induction graphemes cs with
  | case1 => rfl
  | case2 c cs w more ih => simp [ih]

/-- The front of a text that takes at most `room` cells. A grapheme that is cut in two leaves a
space. -/
def frontWithin (room : Nat) : List Grapheme → List Char
  | [] => []
  | g :: gs =>
    if room = 0 then []
    else if g.cells ≤ room then g.chars ++ frontWithin (room - g.cells) gs
    else [' ']

def spaces (n : Nat) : List Char := List.replicate n ' '

/-- A text cut down or filled up with spaces to a number of cells. -/
def sized (room : Nat) (cs : List Char) : List Char :=
  let n := cells cs
  if n ≤ room then cs ++ spaces (room - n) else frontWithin room (graphemes cs)

/-- The pieces of a text that take at most `room` cells each, after the text `piece` that takes
`taken` cells. -/
def piecesAfter (room : Nat) (piece : List Char) (taken : Nat) :
    List Grapheme → List (List Char)
  | [] => if taken = 0 then [] else [piece]
  | g :: gs =>
    if room < taken + g.cells then piece :: piecesAfter room g.chars g.cells gs
    else piecesAfter room (piece ++ g.chars) (taken + g.cells) gs

def chopped (room : Nat) (cs : List Char) : List (List Char) := piecesAfter room [] 0 (graphemes cs)

end VueWrap.Text
