import VueWrap.Failure
import VueWrap.Text.Lines

/-! # Web addresses

An address has a scheme before a colon and a host after two slashes. Only the
parts that decide where a document comes from are told apart. Where there are
brackets, the host has to be a numeric one or one of a later kind.
-/

namespace VueWrap

/-- The parts of an address: the scheme in small letters, and all that names the host. Either may
be empty. -/
structure Address where
  scheme : String
  host : String
deriving DecidableEq, Repr

namespace Address

/-- Controls and spaces, which are dropped at the front. -/
def isFiller (c : Char) : Bool := c.toNat ≤ 32

/-- Characters that are dropped everywhere. -/
def isBreak (c : Char) : Bool := c == '\t' || c == '\r' || c == '\n'

def clean (cs : List Char) : List Char := (cs.dropWhile isFiller).filter (!isBreak ·)

def isSchemeChar (c : Char) : Bool := c.isAlphanum || c == '+' || c == '-' || c == '.'

/-- The scheme and what follows its colon. Without a scheme, all is left. -/
def splitScheme (cs : List Char) : List Char × List Char :=
  let name := cs.takeWhile (· != ':')
  match cs.drop name.length, name with
  | ':' :: rest, first :: _ =>
    if first.isAlpha && name.all isSchemeChar then (name.map Char.toLower, rest) else ([], cs)
  | _, _ => ([], cs)

def endsHost (c : Char) : Bool := c == '/' || c == '?' || c == '#'

def hostOf : List Char → List Char
  | '/' :: '/' :: rest => rest.takeWhile (!endsHost ·)
  | _ => []

def isHexDigit (c : Char) : Bool :=
  c.isDigit || ('a' ≤ c && c ≤ 'f') || ('A' ≤ c && c ≤ 'F')

/-- A part of a dotted address: a number up to 255 without needless zeros. -/
def isOctet (cs : List Char) : Bool :=
  !cs.isEmpty && cs.all Char.isDigit && cs.length ≤ 3 && (cs.length = 1 || cs.head? != some '0') &&
    Json.decimal cs ≤ 255

def isDotted (cs : List Char) : Bool :=
  let parts := Text.splitAt '.' cs
  parts.length = 4 && parts.all isOctet

def isHextet (cs : List Char) : Bool := !cs.isEmpty && cs.all isHexDigit && cs.length ≤ 4

def partCount : Nat := 8

/-- The parts of an address with colons, in order. One gap may stand for parts that are left out;
at either end it leaves one more empty part. -/
def isParted (parts : List (List Char)) : Bool :=
  let inner := parts.drop 1 |>.dropLast
  match inner.idxOf? [] with
  | some i =>
    let before := parts.take (i + 1)
    let after := parts.drop (i + 2)
    let before := if before = [[]] then [] else before
    let after := if after = [[]] then [] else after
    (inner.count [] = 1) && before.all isHextet && after.all isHextet &&
      before.length + after.length < partCount
  | none => parts.length = partCount && parts.all isHextet

def undotted? (parts : List (List Char)) : Option (List (List Char)) :=
  match parts.getLast? with
  | some last =>
    if last.contains '.' then
      if isDotted last then some (parts.dropLast ++ [['0'], ['0']]) else none
    else some parts
  | none => none

/-- A numeric address with colons, and perhaps with the name of a zone after a percent sign. -/
def isNumeric (cs : List Char) : Bool :=
  let number := cs.takeWhile (· != '%')
  let zone := cs.drop number.length
  let zoneFits := match zone with
    | [] => true
    | _ :: name => !name.isEmpty && !name.contains '%'
  let parts := Text.splitAt ':' number
  zoneFits && 3 ≤ parts.length && match undotted? parts with
    | some ps => ps.length ≤ partCount + 1 && isParted ps
    | none => false

/-- An address of a later kind: a mark with a version in hexadecimal digits, a point, and more. -/
def isLater : List Char → Bool
  | 'v' :: cs =>
    let version := cs.takeWhile isHexDigit
    !version.isEmpty && match cs.drop version.length with
      | '.' :: _ :: _ => true
      | _ => false
  | _ => false

def fitsBrackets (cs : List Char) : Bool :=
  if cs.head? = some 'v' then isLater cs else isNumeric cs

/-- What names the host, without the user before the last `@`. -/
def withoutUser (host : List Char) : List Char := (host.reverse.takeWhile (· != '@')).reverse

/-- The name of a host, up to a colon. In brackets, it stands alone before a colon or the end. -/
def hostName? (host : List Char) : Option (List Char) :=
  match withoutUser host with
  | '[' :: cs =>
    let name := cs.takeWhile (· != ']')
    match cs.drop (name.length + 1) with
    | [] => some name
    | c :: _ => if c = ':' then some name else none
  | cs => if cs.contains '[' then none else some (cs.takeWhile (· != ':'))

/-- Brackets are in pairs, and the name of the host is what they may hold. -/
def bracketsFit (host : List Char) : Bool :=
  match host.contains '[', host.contains ']' with
  | false, false => true
  | true, true => (hostName? host).any fitsBrackets
  | _, _ => false

/-- Characters whose plain form has one that ends the host or divides it. -/
def deceptive : List Nat :=
  [0x2047, 0x2048, 0x2049, 0x2100, 0x2101, 0x2105, 0x2106, 0x2a74, 0xfe13, 0xfe16, 0xfe55, 0xfe56,
    0xfe5f, 0xfe6b, 0xff03, 0xff0f, 0xff1a, 0xff1f, 0xff20]

def hostFits (host : List Char) : Bool :=
  bracketsFit host && !host.any fun c => deceptive.contains c.toNat

def ofString (s : String) : Except Failure Address :=
  let (scheme, rest) := splitScheme (clean s.toList)
  let host := hostOf rest
  if hostFits host then .ok ⟨String.ofList scheme, String.ofList host⟩ else .error .badContent

def webSchemes : List String := ["http", "https"]

def isWeb (s : String) : Except Failure Bool := do
  let a ← ofString s
  return webSchemes.contains a.scheme

end Address

end VueWrap
