import VueWrap.Proofs.Settings.SaveLoad
import VueWrap.Proofs.Settings.Merge

/-! # How loading settings fails

Settings are loaded from a file, or loading fails, and the failures are to be
failures of the settings. Others have four causes: a path that the system does
not look at, bytes that are no text, an integer with too many digits, and
further settings that no field can be laid over where a field has to be.
-/

namespace VueWrap.Settings

variable {t : FileTree} {path : String} {v x k y : Value} {e : Failure}
  {fs : List (String × Value)}

/-- The value is no pair of a key and a value. -/
inductive PairFault (x : Value) : Failure → Prop
  /-- It has no items. -/
  | kind (h : x.items? = none) : PairFault x .wrongKind
  /-- It does not have two items. -/
  | length {vs : List Value} (h : x.items? = some vs) (hlength : vs.length ≠ 2) :
      PairFault x .badContent
  /-- Its first item cannot be a key. -/
  | key {k y : Value} (h : x.items? = some [k, y]) (hkey : k.isKey = false) :
      PairFault x .wrongKind

/-- The value has no entries that fields could be laid over. -/
inductive EntriesFault : Value → Failure → Prop
  /-- A number, or the truth value that is not empty. -/
  | kind {v : Value} (hv : v.isEmpty = false) (h : v.items? = none) : EntriesFault v .wrongKind
  /-- A text. -/
  | text {s : String} (h : s ≠ "") : EntriesFault (.str s) .badContent
  /-- A list in which an item is no pair. -/
  | item {before after : List Value} {x : Value} {e : Failure}
      (hbefore : ∀ y ∈ before, ∀ e, ¬ PairFault y e) (h : PairFault x e) :
      EntriesFault (.arr (before ++ x :: after)) e

inductive IsReported : Failure → Prop
  | mk (e : SettingsError) : IsReported (.settings e)

/-- The failures of reading a file that are none of the settings. -/
inductive FileStray (t : FileTree) (path : String) : Failure → Prop
  /-- The system does not look at the path. -/
  | path {cause : Cause} (h : t.has (Path.tidy path) = .error cause) :
      FileStray t path (.system cause)
  /-- The bytes of the file are no text. -/
  | bytes {bytes : ByteArray} (hjson : Text.lower (Path.extension (Path.tidy path)) = ".json")
      (hread : t.read (Path.tidy path) = .ok bytes) (h : FileTree.textOf? bytes = none) :
      FileStray t path .notText
  /-- The file has an integer with too many digits. -/
  | integer {bytes : ByteArray} {s : String}
      (hjson : Text.lower (Path.extension (Path.tidy path)) = ".json")
      (hread : t.read (Path.tidy path) = .ok bytes) (htext : FileTree.textOf? bytes = some s)
      (h : Json.read s = .error .longInteger) : FileStray t path .badContent

/-- The failures of loading that are none of the settings, and where they come from. An empty path
names no file. -/
inductive Stray (t : FileTree) (path : String) : Failure → Prop
  | file {e : Failure} (hpath : path ≠ "") (h : FileStray t path e) : Stray t path e
  /-- A field that names no setting has to be laid over further settings without entries. -/
  | further {e : Failure} {fs : List (String × Value)} {f : String × Value} {v : Value}
      (hpath : path ≠ "") (hfile : readFile t path = .ok fs) (hf : f ∈ fs)
      (hunknown : isKnown f.1 = false) (hv : (furtherKey, v) ∈ fs) (h : EntriesFault v e) :
      Stray t path e

end VueWrap.Settings
