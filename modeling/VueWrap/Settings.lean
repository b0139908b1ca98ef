import VueWrap.Assoc
import VueWrap.Failure
import VueWrap.Text.Case

/-! # Settings

The settings of a run: eight with names of their own, and further ones, which
are kept for whoever needs them. Values are taken as they are; a check gives
warnings, and never a failure of its own. `merge` lays a file and overrides over
the defaults.
-/

namespace VueWrap

/-- Further settings: a value as it was given, or entries some of whose keys are no texts. -/
inductive Settings.Further where
  | plain (v : Value)
  | keyed (entries : List (Value × Value))

structure Settings where
  componentsDir : Value := .str "src"
  indexFile : Value := .str "src/index.ts"
  extension : Value := .str ".ts"
  basePath : Value := .str "./core/index"
  configPath : Value := .str "./core/index"
  package : Value := .str "devextreme"
  version : Value := .int 3
  reexports : Value := .bool false
  further : Settings.Further := .plain (.obj [])

namespace Settings

def defaults : Settings := {}

inductive Name where
  | componentsDir
  | indexFile
  | extension
  | basePath
  | configPath
  | package
  | version
  | reexports
deriving DecidableEq, Repr

namespace Name

def all : List Name :=
  [componentsDir, indexFile, extension, basePath, configPath, package, version, reexports]

def key : Name → String
  | componentsDir => "components_dir"
  | indexFile => "index_file_name"
  | extension => "file_extension"
  | basePath => "base_component_path"
  | configPath => "config_component_path"
  | package => "widgets_package"
  | version => "vue_version"
  | reexports => "generate_reexports"

def ofKey? (k : String) : Option Name := all.find? fun n => n.key = k

end Name

def get (s : Settings) : Name → Value
  | .componentsDir => s.componentsDir
  | .indexFile => s.indexFile
  | .extension => s.extension
  | .basePath => s.basePath
  | .configPath => s.configPath
  | .package => s.package
  | .version => s.version
  | .reexports => s.reexports

def set (s : Settings) (n : Name) (v : Value) : Settings :=
  match n with
  | .componentsDir => { s with componentsDir := v }
  | .indexFile => { s with indexFile := v }
  | .extension => { s with extension := v }
  | .basePath => { s with basePath := v }
  | .configPath => { s with configPath := v }
  | .package => { s with package := v }
  | .version => { s with version := v }
  | .reexports => { s with reexports := v }

def furtherKey : String := "custom"

def isKnown (k : String) : Bool := k = furtherKey || (Name.ofKey? k).isSome

/-- The settings with the value of a key; a key that names no setting changes nothing. -/
def setKey (s : Settings) (f : String × Value) : Settings :=
  if f.1 = furtherKey then { s with further := .plain f.2 }
  else match Name.ofKey? f.1 with
    | some n => s.set n f.2
    | none => s

/-- A pair of a key and a value, given as the two items of a value. -/
def pairOf (v : Value) : Except Failure (Value × Value) :=
  match v.items? with
  | some [k, x] => if k.isKey then .ok (k, x) else .error .wrongKind
  | some _ => .error .badContent
  | none => .error .wrongKind

/-- The entries of an object, or of a list of pairs. -/
def entriesOf : Value → Except Failure (List (Value × Value))
  | .obj fs => .ok (fs.map fun f => (.str f.1, f.2))
  | .arr items => do
    let pairs ← items.mapM pairOf
    return Assoc.ofList Value.same pairs
  | .str s => if s.isEmpty then .ok [] else .error .badContent
  | _ => .error .wrongKind

/-- The entries of an object whose keys are all texts. -/
def asFields? (entries : List (Value × Value)) : Option (List (String × Value)) :=
  entries.mapM fun e => match e.1 with
    | .str k => some (k, e.2)
    | _ => none

def Further.ofEntries (entries : List (Value × Value)) : Further :=
  match asFields? entries with
  | some fs => .plain (.obj fs)
  | none => .keyed entries

def Further.entries : Further → Except Failure (List (Value × Value))
  | plain v => entriesOf v
  | keyed es => .ok es

/-- The entries that more of them are laid over; an empty value has none. -/
def Further.base : Further → Except Failure (List (Value × Value))
  | plain v => if v.isEmpty then .ok [] else entriesOf v
  | keyed es => .ok es

/-- The settings that the fields of an object give; the fields that name no setting are laid over
the further settings. -/
def ofFields (fs : List (String × Value)) : Except Failure Settings :=
  let s := fs.foldl setKey defaults
  match fs.filter fun f => !isKnown f.1 with
  | [] => .ok s
  | unknown => do
    let es ← s.further.base
    let more := unknown.map fun f => (Value.str f.1, f.2)
    return { s with further := .ofEntries (Assoc.update Value.same es more) }

/-- The settings given one by one, all of them by keys that name settings. -/
def exactly : Value → Except Failure Settings
  | .obj fs => if fs.all fun f => isKnown f.1 then .ok (fs.foldl setKey defaults)
    else .error .wrongKind
  | _ => .error .wrongKind

/-- The fields of overrides that count: those that are not null. -/
def overriding (overrides : Value) : Except Failure (List (String × Value)) :=
  if overrides.isEmpty then .ok []
  else match overrides with
    | .obj fs => .ok (fs.filter fun f => match f.2 with | .null => false | _ => true)
    | _ => .error .wrongKind

/-- The settings of a file with overrides laid over them. -/
def merge (file : List (String × Value)) (overrides : Value) : Except Failure Settings := do
  let changes ← overriding overrides
  ofFields (Assoc.update Assoc.sameText file changes)

def readFile (t : FileTree) (path : String) : Except Failure (List (String × Value)) :=
  let shown := Path.tidy path
  match t.has shown with
  | .error c => .error (.system c)
  | .ok false => .error (.settings (.notFound shown))
  | .ok true =>
    if Text.lower (Path.extension shown) ≠ ".json" then .error (.settings (.notJson shown))
    else match t.read shown with
      | .error o => .error (.ofObstacle (fun c => .settings (.unreadable shown c)) o)
      | .ok bytes => match FileTree.textOf? bytes with
        | none => .error .notText
        | some text => match Json.read text with
          | .error .longInteger => .error .badContent
          | .error (.fault f) => .error (.settings (.invalid shown f))
          | .ok (.obj fs) => .ok fs
          | .ok _ => .error (.settings (.notObject shown))

/-- The settings of a file, which need not be given, with overrides. -/
def load (t : FileTree) (overrides file : Value) : Except Failure Settings :=
  if file.isEmpty then merge [] overrides
  else match file with
    | .str path => do
      let fs ← readFile t path
      merge fs overrides
    | _ => .error .wrongKind

def hasKnownVersion (s : Settings) : Bool := s.version.same (.int 2) || s.version.same (.int 3)

def extensionWarnings : Value → Except Failure (List String)
  | .str e => .ok (if e.toList.head? = some '.' then []
      else [s!"file_extension should start with '.': {e}"])
  | _ => .error .wrongKind

def needed : List Name := [.componentsDir, .indexFile, .basePath, .configPath, .package]

def warnings (s : Settings) : Except Failure (List String) :=
  match extensionWarnings s.extension with
  | .error e => .error e
  | .ok ws => .ok <|
      (if s.hasKnownVersion then [] else [s!"Unsupported vue_version: {s.version.display}"]) ++
      ws ++ ((needed.filter fun n => (s.get n).isEmpty).map fun n => s!"Empty setting: {n.key}")

end Settings

end VueWrap
