/-! # Texts and their bytes

A text may hold halves of surrogate pairs. They stand for no character, so a text
with a half in it has no bytes. A half is kept as a mark and the private character
of its number, and the mark itself is kept twice. In the name of a file a half can
stand for a byte that belongs to no character.
-/

namespace VueWrap.Text

/-- A character, or half of a surrogate pair. -/
inductive Point where
  | char (c : Char)
  | half (n : Nat)
deriving DecidableEq, Repr

/-- The mark before a half, which is not meant to be in any text. -/
def halfMark : Char := Char.ofNat 0x10ffff

namespace Point

def chars : Point → List Char
  | char c => if c = halfMark then [halfMark, halfMark] else [c]
  | half n => [halfMark, Char.ofNat (n + 0x800)]

/-- A half that stands for a byte. -/
def isByte (n : Nat) : Bool := 0xdc80 ≤ n && n ≤ 0xdcff

def isNameable : Point → Bool
  | char _ => true
  | half n => isByte n

def nameBytes : Point → List UInt8
  | char c => String.utf8EncodeChar c
  | half n => [UInt8.ofNat n]

end Point

/-- The points that characters are kept for, after a mark or not. -/
def pointsAfter : Bool → List Char → List Point
  | false, [] => []
  | true, [] => [.half 0]
  | false, c :: cs =>
    if c = halfMark then pointsAfter true cs else .char c :: pointsAfter false cs
  | true, c :: cs =>
    (if c = halfMark then .char c else .half (c.toNat - 0x800)) :: pointsAfter false cs

def points (cs : List Char) : List Point := pointsAfter false cs

/-- The characters of some points, if there are no halves. -/
def chars? : List Point → Option (List Char)
  | [] => some []
  | .char c :: ps => (chars? ps).map fun cs => c :: cs
  | .half _ :: _ => none

def ofChars (cs : List Char) : String := String.ofList (cs.flatMap fun c => (Point.char c).chars)

/-- The bytes of a text, if it has no halves. -/
def bytes? (cs : List Char) : Option ByteArray :=
  (chars? (points cs)).map fun ds => (String.ofList ds).toUTF8

def isNameable (s : String) : Bool := (points s.toList).all Point.isNameable

def nameBytes (s : String) : List UInt8 := (points s.toList).flatMap Point.nameBytes

/-- The characters at the front of some bytes, and how many bytes they take: as few as make up
characters. -/
def front? (bs : List UInt8) : Option (List Char × Nat) :=
  [1, 2, 3, 4].findSome? fun n =>
    (String.fromUTF8? (bs.take n).toByteArray).map fun s => (s.toList, n)

/-- What bytes are kept as in the name of a file, where the first `taken` of them belong to what
is before. -/
def ofNameBytes : Nat → List UInt8 → List Char
  | _, [] => []
  | taken + 1, _ :: bs => ofNameBytes taken bs
  | 0, b :: bs =>
    match front? (b :: bs) with
    | some (cs, n) => cs.flatMap (fun c => (Point.char c).chars) ++ ofNameBytes (n - 1) bs
    | none => (Point.half (0xdc00 + b.toNat)).chars ++ ofNameBytes 0 bs

/-- The text for all names with the same bytes. -/
def systemName (s : String) : String :=
  if halfMark ∈ s.toList then String.ofList (ofNameBytes 0 (nameBytes s)) else s

end VueWrap.Text
