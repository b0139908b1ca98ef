import VueWrap.Text.Lines

/-! # Paths as texts

Segments between slashes, the tidy form of a path, and the way from one place to
another. Everything here is lexical: no directory is looked at, and two points
go back over the segment before them.
-/

namespace VueWrap.Path

/-- The segments of a path, without empty ones and single points. -/
def segments (path : String) : List String :=
  ((Text.splitAt '/' path.toList).map String.ofList).filter fun s => !s.isEmpty && s != "."

def isAbsolute (path : String) : Bool := path.toList.head? == some '/'

/-- The slashes a path begins with: exactly two stay, any other number is one. -/
def root (path : String) : String :=
  match (path.toList.takeWhile (· == '/')).length with
  | 0 => ""
  | 2 => "//"
  | _ => "/"

/-- The tidy form: no empty segments, no single points, no slash at the end. -/
def tidy (path : String) : String :=
  let body := "/".intercalate (segments path)
  let whole := root path ++ body
  if whole.isEmpty then "." else whole

/-- Two paths in a row; an absolute second one stands alone. -/
def join (dir name : String) : String :=
  if isAbsolute name then name
  else if dir.isEmpty || dir.toList.getLast? == some '/' then dir ++ name
  else dir ++ "/" ++ name

def child (dir name : String) : String :=
  if isAbsolute name then tidy name else tidy (join (tidy dir) name)

def directory (path : String) : String :=
  let cs := path.toList
  let head := (cs.reverse.dropWhile (· != '/')).reverse
  if head.all (· == '/') then String.ofList head
  else String.ofList (head.reverse.dropWhile (· == '/')).reverse

def fileName (path : String) : String := (segments path).getLast?.getD ""

/-- The extension of the last segment: from its last point, unless that is its first or its last
character. -/
def extension (path : String) : String :=
  let name := (fileName path).toList
  let after := name.reverse.takeWhile (· != '.')
  if name.contains '.' && !after.isEmpty && after.length + 1 < name.length then
    String.ofList ('.' :: after.reverse)
  else ""

/-- One more segment on a stack of segments, nearest first. -/
def step (stack : List String) (segment : String) : List String :=
  if segment = ".." then stack.drop 1 else segment :: stack

/-- The segments of the place that a path names, seen from the place `here`. -/
def resolve (here : List String) (path : String) : List String :=
  ((segments path).foldl step (if isAbsolute path then [] else here.reverse)).reverse

/-- The part of `goal` that is left after what it has in common with `start`, after one step back
for every segment of `start` beyond that. -/
def relative : List String → List String → List String
  | s :: start, t :: goal =>
    if s = t then relative start goal else (s :: start).map (fun _ => "..") ++ t :: goal
  | start, goal => start.map (fun _ => "..") ++ goal

/-- The way from the place `start` to the place `goal`, both seen from `here`. -/
def between (here : List String) (start goal : String) : String :=
  match relative (resolve here start) (resolve here goal) with
  | [] => "."
  | way => "/".intercalate way

end VueWrap.Path
