import VueWrap.Console.Markup
import VueWrap.Text.Lines
import VueWrap.Text.Width
import VueWrap.Text.Words

/-! # Lines of a printed text

A printed text is broken into lines that are not wider than a number of cells:
before words, and where a word is wider than a line, inside of it or not at all. Tabs
become spaces up to the next tab stop. A line that is still too wide is cut.
-/

namespace VueWrap.Console

abbrev Line := List Glyph

inductive Overflow where
  | fold
  | ellipsis
deriving DecidableEq, Repr

namespace Line

def chars (l : Line) : List Char := l.map Glyph.char

def cells (l : Line) : Nat := Text.cells l.chars

def text (l : Line) : String := String.ofList l.chars

def tabWidth : Nat := 8

/-- The places from `column` to the next tab stop; none at a tab stop. -/
def toTabStop (column : Nat) : Nat := (tabWidth - column % tabWidth) % tabWidth

/-- A line, which begins at `column`, with spaces instead of tabs: one for the tab itself, and those
up to the next tab stop. -/
def expandTabs (column : Nat) (l : Line) : Line :=
  let part : Line := l.takeWhile fun g => g.char != '\t'
  match _h : l.dropWhile fun g => g.char != '\t' with
  | [] => l
  | tab :: rest =>
    let column := column + Text.cells (part.chars ++ [' '])
    let more := toTabStop column
    part ++ List.replicate (more + 1) { tab with char := ' ' } ++ expandTabs (column + more) rest
termination_by l.length
decreasing_by
  have hle : (l.dropWhile fun g => g.char != '\t').length ≤ l.length :=
    (List.dropWhile_sublist _).length_le
  rw [_h, List.length_cons] at hle
  omega

/-- A line without the blanks at its end that are too many for its width. -/
def trimEnd (width : Nat) (l : Line) : Line :=
  let blanks := (l.reverse.takeWhile fun g => Text.isBlank g.char).length
  l.take (l.length - min blanks (l.length - width))

def withChars : Line → List Char → Line
  | g :: gs, c :: cs => { g with char := c } :: withChars gs cs
  | [], cs => cs.map fun c => ⟨c, 0, false, true⟩
  | _, [] => []

def cut (o : Overflow) (width : Nat) (l : Line) : Line :=
  if l.cells ≤ width then l
  else match o with
    | .fold => l.withChars (Text.sized width l.chars)
    | .ellipsis => l.withChars (Text.sized (width - 1) l.chars ++ ['…'])

/-- A line filled up with spaces, which no tag styles. -/
def fill (width : Nat) (l : Line) : Line :=
  let run := match l.getLast? with
    | some g => if g.styled then g.run + 1 else g.run
    | none => 0
  l ++ (Text.spaces (width - l.cells)).map fun c => ⟨c, run, false, true⟩

def runs (l : Line) : List (List Char) := (l.splitBy fun g h => g.run == h.run).map chars

end Line

/-- The places before the pieces of a word that is folded at `start`, and the cells of the last
piece. -/
def foldBreaks (start : Nat) : List (List Char) → List Nat × Nat
  | [] => ([], 0)
  | [piece] => ([start], Text.cells piece)
  | piece :: more =>
    let r := foldBreaks (start + piece.length) more
    (start :: r.1, r.2)

/-- The places where lines of a width begin, beside the first one; the chunk at the place `start`
comes after `column` cells of its line. -/
def breaks (o : Overflow) (width start column : Nat) : List (List Char) → List Nat
  | [] => []
  | chunk :: more =>
    let next := start + chunk.length
    let word := Text.cells (Text.trimBlanksEnd chunk)
    if column + word ≤ width then breaks o width next (column + Text.cells chunk) more
    else if word ≤ width then start :: breaks o width next (Text.cells chunk) more
    else match o with
      | .ellipsis => start :: breaks o width next (Text.cells chunk) more
      | .fold =>
        let (places, column) := foldBreaks start (Text.chopped width chunk)
        places ++ breaks o width next column more

/-- A line cut at places, which are counted from `start`. -/
def Line.cutAt (start : Nat) : List Nat → Line → List Line
  | [], l => [l]
  | place :: more, l => l.take (place - start) :: cutAt place more (l.drop (place - start))

def Line.broken (o : Overflow) (width : Nat) (l : Line) : List Line :=
  let places := (breaks o width 0 0 (Text.chunks l.chars)).filter (· != 0)
  (cutAt 0 places l).map (trimEnd width)

def wrapped (o : Overflow) (width : Nat) (text : List Glyph) : List Line :=
  (Text.splitWhere (fun g => g.char == '\n') text).flatMap fun l =>
    ((Line.expandTabs 0 l).broken o width).map (Line.cut o width)

/-- The lines of a marked text, if its styles can be read. A tag around nothing, or around ends of
lines, is lost where the text is divided. -/
def Marked.lines (o : Overflow) (width : Nat) (m : Marked) : Except Failure (List Line) :=
  let lines := wrapped o width m.glyphs
  let isWhole := lines.length = 1 && m.glyphs.all fun g => g.char != '\t'
  if m.legible || (!isWhole && m.glyphs.all fun g => g.legible || g.char == '\n') then .ok lines
  else .error .badContent

end VueWrap.Console
