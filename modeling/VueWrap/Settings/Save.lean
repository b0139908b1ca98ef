import VueWrap.Json.Print
import VueWrap.Settings

/-! # Saving settings

The settings are written as one JSON object with the further settings among its
fields. An integer with too many digits, or a string that has no bytes, is met
only while the file is being written; what is in the file then is left open.
-/

namespace VueWrap.Settings

def keyText : Value → String
  | .str s => s
  | v => String.ofList (Json.printScalar v)

def entries (s : Settings) : Except Failure (List (Value × Value)) := do
  let es ← s.further.entries
  let own := Name.all.map fun n => (Value.str n.key, s.get n)
  return Assoc.update Value.same own es

def textOf (es : List (Value × Value)) : List Char :=
  Json.printBlock 2 (.obj (es.map fun e => (keyText e.1, e.2)))

def save (s : Settings) (t : FileTree) (path : Value) : Except Failure FileTree :=
  match path with
  | .str p => do
    let es ← s.entries
    match t.writeText (Path.tidy p) (textOf es) with
    | (_, some o) => .error (.ofObstacle (fun c => .settings (.unwritable (Path.tidy p) c)) o)
    | (t', none) =>
      if es.all fun e => Json.isWritable e.1 && Json.isWritable e.2 then .ok t'
      else .error .badContent
  | _ => .error .wrongKind

end VueWrap.Settings
