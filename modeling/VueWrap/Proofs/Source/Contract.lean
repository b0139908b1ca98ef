import VueWrap.Proofs.Outcome
import VueWrap.Source

/-! # How loading fails

Loading a source gives metadata or fails, and the failures are to be failures of
the source. Five kinds of them are not, and each has its own cause: an address
whose host cannot be understood, a report of a bad status without its response,
a path that the system does not look at, bytes that are no text, and an integer
with too many digits.
-/

namespace VueWrap

namespace Metadata

variable {v : Value} {fs : List (String × Value)} {key : String} {α : Type}
  {entry : Value → Except Failure α}

end Metadata

namespace Source

inductive IsReported : Failure → Prop
  | mk (e : SourceError) : IsReported (.source e)

/-- The failures that are none of the source, and where they come from. -/
inductive Stray (t : FileTree) (net : Network) (text : String) : Failure → Prop
  /-- The host of the address cannot be understood. -/
  | host (h : Address.hostFits (Address.hostOf (Address.splitScheme
      (Address.clean text.toList)).2) = false) : Stray t net text .badContent
  /-- The network reports a bad status without the response it is about. -/
  | reply {a : Address} (ha : Address.ofString text = .ok a)
      (hweb : a.scheme ∈ Address.webSchemes) (hhost : a.host ≠ "")
      (h : net text = .statusOnly) : Stray t net text .wrongKind
  /-- The system does not look at the path. -/
  | path {cause : Cause} (hfile : Address.isWeb text = .ok false)
      (h : t.isFile (Path.tidy text) = .error cause) : Stray t net text (.system cause)
  /-- The bytes of the file are no text. -/
  | bytes {bytes : ByteArray} (hfile : Address.isWeb text = .ok false)
      (hread : t.read (Path.tidy text) = .ok bytes) (h : FileTree.textOf? bytes = none) :
      Stray t net text .notText
  /-- The file has an integer with too many digits. -/
  | integer {bytes : ByteArray} {s : String} (hfile : Address.isWeb text = .ok false)
      (hread : t.read (Path.tidy text) = .ok bytes) (htext : FileTree.textOf? bytes = some s)
      (h : Json.read s = .error .longInteger) : Stray t net text .badContent

variable {t : FileTree} {net : Network} {timeout : Value} {text path : String} {e : Failure}

end Source

end VueWrap
