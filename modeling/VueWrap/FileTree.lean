import VueWrap.Assoc
import VueWrap.Path
import VueWrap.Text.Bytes
import VueWrap.Text.Quoted

/-! # Directories and files

A file tree holds directories and files by their places, a place being the list
of names from the root. A path is followed segment by segment from the working
directory: every segment on the way has to be a directory, and two points go to
the directory above. An operation that is not done gives the reason and leaves
the tree as it is, with one exception: a text that has no bytes is met when its
file is already open, and empty.
-/

namespace VueWrap

/-- Why the system refuses an operation. -/
inductive Cause where
  | noEntry
  | present
  | notDirectory
  | isDirectory
  | nameTooLong
deriving DecidableEq, Repr

namespace Cause

def number : Cause → Nat
  | noEntry => 2
  | present => 17
  | notDirectory => 20
  | isDirectory => 21
  | nameTooLong => 36

def message : Cause → String
  | noEntry => "No such file or directory"
  | present => "File exists"
  | notDirectory => "Not a directory"
  | isDirectory => "Is a directory"
  | nameTooLong => "File name too long"

def describe (c : Cause) (path : String) : String :=
  s!"[Errno {c.number}] {c.message}: {Text.quoted path}"

end Cause

/-- Why an operation is not done: the system refuses it, or cannot be given the path because of a
zero character or a half in it. -/
inductive Obstacle where
  | refused (cause : Cause)
  | zero
  | noBytes
deriving DecidableEq, Repr

inductive Entry where
  | dir
  | file (bytes : ByteArray)

/-- Both are directories, or files with the same bytes. -/
def Entry.same : Entry → Entry → Bool
  | dir, dir => true
  | file b, file c => b.toList = c.toList
  | _, _ => false

/-- The entries of a tree below its root, and the working directory. -/
structure FileTree where
  here : List String
  entries : List (List String × Entry)

namespace FileTree

def samePlace (p q : List String) : Bool := p = q

/-- What is at a place; the root is a directory. -/
def entry? (t : FileTree) (place : List String) : Option Entry :=
  if place = [] then some .dir else Assoc.get? samePlace t.entries place

def set (t : FileTree) (place : List String) (e : Entry) : FileTree :=
  { t with entries := Assoc.put samePlace t.entries place e }

def maxName : Nat := 255

/-- One more than the longest path, in bytes. -/
def maxPath : Nat := 4096

/-- What keeps a path from being followed in any tree. -/
def obstacle? (path : String) : Option Obstacle :=
  if !Text.isNameable path then some .noBytes
  else if Char.ofNat 0 ∈ path.toList then some .zero
  else if maxPath ≤ (Text.nameBytes path).length then some (.refused .nameTooLong)
  else none

/-- The place reached from a place by the segments. Only the last one may be missing. -/
def walk (t : FileTree) (place : List String) : List String → Except Cause (List String)
  | [] => .ok place
  | s :: rest =>
    match t.entry? place with
    | none => .error .noEntry
    | some (.file _) => .error .notDirectory
    | some .dir =>
      if s = ".." then t.walk place.dropLast rest
      else if maxName < (Text.nameBytes s).length then .error .nameTooLong
      else t.walk (place ++ [Text.systemName s]) rest

def locate (t : FileTree) (path : String) : Except Obstacle (List String) :=
  match obstacle? path with
  | some o => .error o
  | none =>
    (t.walk (if Path.isAbsolute path then [] else t.here) (Path.segments path)).mapError .refused

def step (names : List String) (segment : String) : List String :=
  if segment = ".." then names.drop 1 else Text.systemName segment :: names

/-- The place that a path names, seen from the place `here`, whatever is there. -/
def placeOf (here : List String) (path : String) : List String :=
  ((Path.segments path).foldl step (if Path.isAbsolute path then [] else here.reverse)).reverse

def find (t : FileTree) (path : String) : Except Obstacle Entry :=
  match t.locate path with
  | .error o => .error o
  | .ok place =>
    match t.entry? place with
    | none => .error (.refused .noEntry)
    | some e => .ok e

/-- Writes a whole file; its directory has to be there. -/
def write (t : FileTree) (path : String) (bytes : ByteArray) : Except Obstacle FileTree :=
  match t.locate path with
  | .error o => .error o
  | .ok place =>
    match t.entry? place with
    | some .dir => .error (.refused .isDirectory)
    | _ => .ok (t.set place (.file bytes))

/-- Writes a file with a text. The file is emptied before the bytes of the text are looked for. -/
def writeText (t : FileTree) (path : String) (text : List Char) : FileTree × Option Obstacle :=
  match t.write path ((Text.bytes? text).getD .empty) with
  | .error o => (t, some o)
  | .ok t' => (t', if (Text.bytes? text).isSome then none else some .noBytes)

/-- Makes a directory; a directory that is there already is left alone. -/
def makeDir (t : FileTree) (path : String) : Except Obstacle FileTree :=
  match t.locate path with
  | .error o => .error o
  | .ok place =>
    match t.entry? place with
    | some .dir => .ok t
    | some (.file _) => .error (.refused .present)
    | none => .ok (t.set place .dir)

def read (t : FileTree) (path : String) : Except Obstacle ByteArray :=
  match t.find path with
  | .error o => .error o
  | .ok .dir => .error (.refused .isDirectory)
  | .ok (.file bytes) => .ok bytes

/-- Whether a probe finds something that satisfies `p`. Where there is no way it finds nothing, but
a name that is too long makes it fail. -/
def probe (t : FileTree) (p : Entry → Bool) (path : String) : Except Cause Bool :=
  match t.find path with
  | .ok e => .ok (p e)
  | .error (.refused .nameTooLong) => .error .nameTooLong
  | .error _ => .ok false

def has (t : FileTree) (path : String) : Except Cause Bool := t.probe (fun _ => true) path

def isFile (t : FileTree) (path : String) : Except Cause Bool :=
  t.probe (fun e => match e with | .file _ => true | .dir => false) path

def isDir (t : FileTree) (path : String) : Except Cause Bool :=
  t.probe (fun e => match e with | .dir => true | .file _ => false) path

def normalLines : List Char → List Char
  | '\r' :: '\n' :: cs => '\n' :: normalLines cs
  | '\r' :: cs => '\n' :: normalLines cs
  | c :: cs => c :: normalLines cs
  | [] => []

/-- The text of some bytes with every line end a line feed, if they are the bytes of a text. -/
def textOf? (bytes : ByteArray) : Option String :=
  (String.fromUTF8? bytes).map fun s => Text.ofChars (normalLines s.toList)

/-- The tree with a directory at every place on the way to `place`. -/
def withDirs (t : FileTree) (place : List String) : FileTree :=
  (List.range place.length).foldl (fun t n =>
    let p := place.take (n + 1)
    match t.entry? p with
    | some _ => t
    | none => t.set p .dir) t

/-- The tree without a place and all that is below it. -/
def without (t : FileTree) (place : List String) : FileTree :=
  { t with entries := t.entries.filter fun e => !place.isPrefixOf e.1 }

/-- A place written as an absolute path; a directory ends with a slash. -/
def pathOf (place : List String) (e : Entry) : String :=
  "/" ++ "/".intercalate place ++ (match e with | .dir => "/" | .file _ => "")

/-- The entries of `t` that `before` does not have alike, in the order of their paths. -/
def newSince (before t : FileTree) : List (String × Entry) :=
  ((t.entries.filter fun e => match before.entry? e.1 with
    | some old => !old.same e.2
    | none => true).map fun e => (pathOf e.1 e.2, e.2)).mergeSort fun a b => a.1 ≤ b.1

/-- The paths of `before` that `t` does not have, in order. -/
def goneSince (before t : FileTree) : List String :=
  ((before.entries.filter fun e =>
    match e.2, t.entry? e.1 with
    | .dir, some .dir => false
    | .file _, some (.file _) => false
    | _, _ => true).map fun e => pathOf e.1 e.2).mergeSort fun a b => a ≤ b

end FileTree

end VueWrap
