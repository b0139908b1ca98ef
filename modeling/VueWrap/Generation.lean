import VueWrap.Mapping
import VueWrap.Module.Document
import VueWrap.Settings

/-! # Generation

The modules of a metadata document are written in a fixed order: one for every
widget, then the index, then those of the shared exports. `plan` says what will
be done without looking at any file; `run` does it, action by action, and stops
at the first one that fails.
-/

namespace VueWrap.Generation

inductive Action where
  /-- A record for the log. -/
  | note (r : Log.Record)
  /-- A document has to have a text. -/
  | render (d : Module.Document)
  /-- A document is written to a file. -/
  | write (path : String) (d : Module.Document)
  /-- A directory has to be there. -/
  | makeDir (path : String)

structure Report where
  files : List String
  entries : List Module.Entry
  widgetCount : Nat
  typeCount : Nat
  version : Value
  componentsDir : Value

/-- A result with the actions on the way to it. -/
abbrev Plan := Traced Action

def logger : String := "dx_vue_generator.codegen.core.generator"

def asPath : Value → Except Failure String
  | .str p => .ok p
  | _ => .error .wrongKind

/-- How the index imports the module in a file, seen from the directory `here`: after a point and
a slash, and without its extension. -/
def importPath (here : List String) (index file : Value) : Except Failure String := do
  let index ← asPath index
  if file.isEmpty then .error .badContent
  else
    let file ← asPath file
    let dir := Path.directory index
    let start := if dir.isEmpty then "." else dir
    return "./" ++ Naming.withoutExtension (Path.between here start file)

/-- Writes a document; the path is returned in its tidy form. -/
def writeModule (path : String) (d : Module.Document) : Plan String := do
  let path := Path.tidy path
  Traced.emit (.write path d)
  Traced.emit (.note ⟨.debug, logger, s!"Wrote {path}"⟩)
  return path

def places (s : Settings) : Mapping.Places := ⟨s.basePath, s.configPath, s.extension⟩

structure Context where
  here : List String
  templates : Module.Templates
  resolver : Resolver
  settings : Settings

/-- The module of a widget: its file and its entry in the index. -/
def widgetPlan (c : Context) (g : Registry) (w : Widget) : Plan (String × Module.Entry) := do
  let s := c.settings
  let file ← (Mapping.widget c.resolver g (places s) w).retrace .note
  let dir ← asPath s.componentsDir
  let path := Path.join dir file.fileName
  let written ← writeModule path
    (Module.componentDocument c.templates s.package s.version s.reexports file.component)
  let target ← importPath c.here s.indexFile (.str path)
  return (written, ⟨.str file.component.name, .str target⟩)

/-- The index. Its document has to have a text even where the index has no place to go. -/
def indexPlan (c : Context) (entries : List Module.Entry) : Plan String := do
  let d := Module.indexDocument c.templates entries
  match c.settings.indexFile with
  | .str path => writeModule path d
  | _ =>
    Traced.emit (.render d)
    Traced.fail .wrongKind

/-- The module of a group of shared exports below the directory `dir`. -/
def groupPlan (c : Context) (dir : String) (group : String × Value) : Plan String := do
  let s := c.settings
  let name ← Module.sharedFile (.str group.1) s.extension
  writeModule (Path.child dir name)
    (Module.sharedDocument c.templates s.package (.str group.1) group.2)

def wantsShared (s : Settings) (m : Metadata) : Bool :=
  s.reexports.holds && m.commonReexports.holds

/-- The directory of the shared exports and their modules, where they are wanted. -/
def sharedPlan (c : Context) (m : Metadata) : Plan (List String) := do
  if wantsShared c.settings m then
    let base ← asPath c.settings.componentsDir
    let dir := Path.child base Module.sharedIndex
    Traced.emit (.makeDir dir)
    let groups ← Metadata.fields m.commonReexports
    Traced.each (groupPlan c dir) groups
  else return []

def plan (c : Context) (m : Metadata) : Plan Report := do
  let g ← Registry.ofList m.types
  Traced.emit (.note ⟨.info, logger, s!"Generating {m.widgets.length} widget components"⟩)
  let modules ← Traced.each (widgetPlan c g) m.widgets
  let entries := modules.map (·.2)
  let index ← indexPlan c entries
  let shared ← sharedPlan c m
  return {
    files := modules.map (·.1) ++ index :: shared
    entries
    widgetCount := m.widgets.length
    typeCount := g.size
    version := c.settings.version
    componentsDir := c.settings.componentsDir }

/-- The tree after an action, and why the action has failed, if it has. -/
def Action.perform (t : FileTree) : Action → FileTree × Option Failure
  | note _ => (t, none)
  | render d =>
    match d.look t with
    | .error e => (t, some e)
    | .ok _ => (t, none)
  | write path d =>
    match d.look t with
    | .error e => (t, some e)
    | .ok text =>
      let told := Failure.ofObstacle fun c => .generation (.unwritable path c)
      ((t.writeText path text).1, (t.writeText path text).2.map told)
  | makeDir path =>
    match t.makeDir path with
    | .error o => (t, some (.ofObstacle (fun c => .generation (.noDirectory path c)) o))
    | .ok t' => (t', none)

def Action.records : Action → List Log.Record
  | note r => [r]
  | _ => []

/-- Where a run ends: the tree, the records, and the failure that has stopped it, if any. -/
structure Halt where
  tree : FileTree
  records : List Log.Record
  failure : Option Failure

/-- Performs actions up to the first one that fails. -/
def run (t : FileTree) : List Action → Halt
  | [] => ⟨t, [], none⟩
  | a :: as =>
    match a.perform t with
    | (t', some e) => ⟨t', [], some e⟩
    | (t', none) =>
      let rest := run t' as
      { rest with records := a.records ++ rest.records }

def generate (c : Context) (m : Metadata) (t : FileTree) :
    FileTree × Traced Log.Record Report :=
  let p := plan c m
  let h := run t p.trace
  (h.tree, ⟨h.records, match h.failure with
    | some e => .error e
    | none => p.result⟩)

end VueWrap.Generation
