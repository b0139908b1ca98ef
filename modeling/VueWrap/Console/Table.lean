import VueWrap.Console.Wrap

/-! # Tables and trees

Printed text in lines. A table has a title, a row of headers above a rule, and
columns as wide as their widest cell, unless the table gets too wide; a tree shows
what hangs on what by guides before its labels.
-/

namespace VueWrap.Console

def lineWidth : Nat := 1000

def textLines (s : String) : Except Failure (List String) := do
  let lines ← (← marked s).lines .fold lineWidth
  return lines.map Line.text

structure Table where
  title : Option String
  header : List String
  rows : List (List String)

def endsLine (c : Char) : Bool :=
  let n := c.toNat
  (10 ≤ n && n ≤ 13) || (28 ≤ n && n ≤ 30) || n == 0x85 || n == 0x2028 || n == 0x2029

def total (widths : List Nat) : Nat := widths.foldl (· + ·) 0

def widest (widths : List Nat) : Nat := widths.foldl max 0

def measured (text : List Glyph) : Nat :=
  widest ((Text.splitWhere endsLine (Line.chars text)).map Text.cells)

def padding : Nat := 2

/-- The quotient that is nearest, of two the even one. -/
def nearest (n d : Nat) : Nat :=
  let q := n / d
  let twice := 2 * (n % d)
  if twice < d || (twice = d && q % 2 = 0) then q else q + 1

/-- Takes `excess` from widths in equal shares, at most its cap from each. -/
def shrunk (excess shares : Nat) : List (Nat × Nat) → List Nat
  | [] => []
  | (width, cap) :: more =>
    if cap = 0 then width :: shrunk excess shares more
    else
      let taken := min cap (nearest excess shares)
      (width - taken) :: shrunk (excess - taken) (shares - 1) more

/-- Widths whose sum is at most `limit`: the widest ones are made as wide as the next ones, until
it is. Each step takes something away, and `fuel` bounds what there is to take. -/
def collapsed (limit : Nat) : Nat → List Nat → List Nat
  | 0, widths => widths
  | fuel + 1, widths =>
    let excess := total widths - limit
    let most := widest widths
    let gap := most - widest (widths.filter (· != most))
    if excess = 0 || gap = 0 then widths
    else
      let caps := widths.map fun w => (w, if w = most then min excess gap else 0)
      collapsed limit fuel (shrunk excess (widths.count most) caps)

/-- The cells of the edges of a table and of what divides its columns. -/
def edges (columns : Nat) : Nat := columns + 1

def columnWidths (columns : List (List (List Glyph))) : List Nat :=
  let limit := lineWidth - edges columns.length
  let widths := columns.map fun texts =>
    widest (texts.map fun text => min limit (measured text + padding))
  collapsed limit (total widths) widths

/-- The first stretches of a line, cut off after `room` cells. -/
def cutRuns (room : Nat) : List (List Char) → List (List Char)
  | [] => []
  | run :: more =>
    let n := Text.cells run
    if n < room then run :: cutRuns (room - n) more else [Text.sized room run]

def fitted (width : Nat) (runs : List (List Char)) : List (List Char) :=
  let n := total (runs.map Text.cells)
  if n < width then runs ++ [Text.spaces (width - n)]
  else if n = width then runs
  else cutRuns width runs

def cellLine (width : Nat) (l : Line) : List Char :=
  let room := width - padding
  let inner := fitted room (l.fill room).runs
  (fitted width (fitted width ([' '] :: inner ++ [[' ']]))).flatten

def cellLines (width : Nat) (text : Marked) : Except Failure (List (List Char)) := do
  let lines ← text.lines .ellipsis (width - padding)
  return lines.map (cellLine width)

/-- The lines of a cell with empty ones up to a height; `low` puts them before it. -/
def stretched (height width : Nat) (low : Bool) (lines : List (List Char)) : List (List Char) :=
  let blank := List.replicate (height - lines.length) (Text.spaces width)
  if low then blank ++ lines else lines ++ blank

/-- A line of a row: a space at both edges, and one between cells. -/
def rowLine (texts : List (List Char)) : String :=
  String.ofList (' ' :: ([' '].intercalate texts ++ [' ']))

def rowLines (widths : List Nat) (low : Bool) (row : List Marked) :
    Except Failure (List String) := do
  let cells ← (widths.zip row).mapM fun cell => cellLines cell.1 cell.2
  let height := widest (cells.map List.length)
  let columns := List.zipWith (fun width lines => stretched height width low lines) widths cells
  return (List.range height).map fun i => rowLine (columns.map fun lines => lines.getD i [])

def rule (widths : List Nat) : String :=
  " " ++ String.ofList (List.replicate (total widths + widths.length - 1) '─')

def centred (width : Nat) (l : Line) : String :=
  let l := l.trimEnd 0
  String.ofList (Text.spaces ((width - l.cells) / 2)) ++ l.text

def titleLines (width : Nat) : Option String → Except Failure (List String)
  | none => .ok []
  | some title => do
    let lines ← (← marked title).lines .fold width
    return lines.map (centred width)

def column (rows : List (List String)) (i : Nat) : Except Failure (List Marked) :=
  rows.mapM fun row => marked (row.getD i "")

def Table.lines (t : Table) : Except Failure (List String) := do
  let rows := t.header :: t.rows
  let columns ← (List.range t.header.length).mapM (column rows)
  let widths := columnWidths (columns.map fun texts => texts.map Marked.glyphs)
  let title ← titleLines (total widths + edges widths.length) t.title
  let row (i : Nat) := columns.filterMap fun texts => texts[i]?
  let header ← rowLines widths true (row 0)
  let rows ← (List.range t.rows.length).mapM fun i => rowLines widths false (row (i + 1))
  return title ++ "" :: header ++ rule widths :: rows.flatten ++ [""]

inductive Tree where
  | node (label : String) (children : List Tree)

def guideWidth : Nat := 4

def labelLines (depth : Nat) (label : String) : Except Failure (List String) := do
  let lines ← (← marked label).lines .fold (lineWidth - guideWidth * depth)
  return lines.map Line.text

mutual

/-- The lines of a tree below `depth` guides, without them. -/
def Tree.linesBelow (depth : Nat) : Tree → Except Failure (List String)
  | .node label children => do
    let own ← labelLines depth label
    let below ← Tree.branchLines depth children
    return own ++ below

def Tree.branchLines (depth : Nat) : List Tree → Except Failure (List String)
  | [] => .ok []
  | t :: ts => do
    let own ← Tree.linesBelow (depth + 1) t
    let rest ← Tree.branchLines depth ts
    let guides := if ts.isEmpty then ("└── ", "    ") else ("├── ", "│   ")
    match own with
    | [] => return rest
    | first :: more => return (guides.1 ++ first) :: more.map (guides.2 ++ ·) ++ rest

end

def Tree.lines (t : Tree) : Except Failure (List String) := t.linesBelow 0

end VueWrap.Console
