import VueWrap.Command.Act
import VueWrap.Command.Arguments
import VueWrap.Command.Help

/-! # Running a command

The three commands and the whole program: arguments in, and out come the lines
that are printed, the complaint about the arguments, if any, and the code that
the program ends with. Failures that have a wording are told; all others leave
the program.
-/

namespace VueWrap.Command

def Given.overrides (g : Given) : Value :=
  .obj [
    (Settings.Name.componentsDir.key, g.componentsDir),
    (Settings.Name.indexFile.key, g.indexFile),
    (Settings.Name.basePath.key, g.basePath),
    (Settings.Name.configPath.key, g.configPath),
    (Settings.Name.package.key, g.package),
    (Settings.Name.version.key, g.version),
    (Settings.Name.reexports.key, g.reexports)]

/-- The settings of a run, with a line for every warning. -/
def settings (g : Given) : Act Settings := do
  let s ← attempt (Settings.load (← get).tree g.overrides g.config)
  for w in ← attempt s.warnings do
    say s!"[yellow]⚠️  {w}[/yellow]"
  return s

def Given.source (g : Given) : Value := if g.metadata.isEmpty then g.url else g.metadata

def checkUrl (url : Value) : Except Failure Unit :=
  if url.isEmpty then .ok ()
  else match Address.isWeb url.display with
    | .error e => .error e
    | .ok true => .ok ()
    | .ok false => .error (.command (.notUrl url.display))

def metadata (g : Given) : Act Metadata := do
  attempt (checkUrl g.url)
  let w ← get
  follow (Source.load w.tree w.network Source.usualTimeout g.source)

def modulesTable (r : Generation.Report) : Console.Table where
  title := some "📄 Generated Files"
  header := ["Component", "Index path"]
  rows := r.entries.map fun e => [e.name.display, e.path.display]

def numbersTable (r : Generation.Report) : Console.Table where
  title := some "📊 Generation Metadata"
  header := ["Property", "Value"]
  rows :=
    [["Widget Count", toString r.widgetCount], ["Custom Type Count", toString r.typeCount],
      ["File Count", toString r.files.length], ["Vue Version", r.version.display],
      ["Components Dir", r.componentsDir.display]]

def printTable (t : Console.Table) : Act Unit := do
  printLines (← attempt t.lines)

def generate (verbose : Bool) (g : Given) : Act Unit := do
  let s ← settings g
  let m ← task "Loading metadata..." (metadata g)
  let r ← task s!"Generating {m.widgets.length} components..." (generateHere s m)
  printLines [""]
  say s!"[green]✓[/green] Loaded [cyan]{g.source.display}[/cyan]"
  say s!"[green]✓[/green] Wrote {r.files.length} files to [cyan]{s.componentsDir.display}[/cyan]"
  if verbose then
    printTable (modulesTable r)
    printTable (numbersTable r)

def cellText : Value → Except Failure String
  | .str s => .ok s
  | .null => .ok ""
  | _ => .error .unprintable

def typesText (types : List Value) : String :=
  let text := ", ".intercalate (types.map Value.display)
  if text.isEmpty then "any" else text

def restrictionText : Option Restriction → String
  | none => ""
  | some r => s!"{r.type}: {(Value.arr r.values).literal}"

def propRow (p : PropDecl) : Except Failure (List String) := do
  let name ← cellText p.name
  return [name, typesText p.types, if p.isArray then "✓" else "", restrictionText p.restriction]

def propsTable (c : Component) : Except Failure Console.Table := do
  let rows ← c.props.mapM propRow
  return { title := none, header := ["Prop", "Types", "Array", "Acceptable values"], rows }

def childLabel (c : Value × Child) : String :=
  let kind := if c.2.isCollectionItem then "collection item" else "option"
  s!"{c.1.display} → {c.2.option.display} ({kind})"

def childrenBranch : Option Children → List Console.Tree
  | none => []
  | some cs =>
    if cs.isEmpty then []
    else [.node "expected children" (cs.map fun c => .node (childLabel c) [])]

def nestedBranch (n : Nested) : Console.Tree :=
  .node s!"{n.name} [dim]({n.option.display})[/dim]"
    (n.props.map fun p => .node s!"{p.name.display}: {typesText p.types}" [])

def componentTree (c : Component) : Console.Tree :=
  .node s!"🌳 {c.name}" (childrenBranch c.children ++ (c.nested.getD []).map nestedBranch)

def lookUp (s : Settings) (m : Metadata) (name : String) : Act ComponentFile := do
  match m.widget? (.str name) with
  | none => throw (.command (.noWidget name))
  | some w =>
    let g ← attempt (Registry.ofList m.types)
    followRecords (Mapping.widget .standard g (Generation.places s) w)

def inspect (g : Given) : Act Unit := do
  let s ← settings g
  let m ← metadata g
  let file ← lookUp s m (g.argument.getD "")
  let c := file.component
  say s!"[bold cyan]{c.name}[/bold cyan] → {file.fileName} (base: {c.base.name})"
  printTable (← attempt (propsTable c))
  printLines (← attempt (componentTree c).lines)

def starter : Settings := { reexports := .bool true }

def initConfig (g : Given) : Act Unit := do
  let path := Path.tidy (g.argument.getD "")
  saveHere starter path
  say s!"[green]✓[/green] Configuration saved to [cyan]{path}[/cyan]"

def perform (verbose : Bool) : Verb → Given → Act Unit
  | .generate, g => generate verbose g
  | .inspect, g => inspect g
  | .initConfig, g => initConfig g

inductive Ending where
  | exit (code : Nat)
  | raised (e : Failure)

structure Outcome where
  ending : Ending
  complaint : String
  verbose : Bool
  world : World

def logger : String := "dx_vue_generator.cli"

def tellError (message : String) : Act Ending := do
  say s!"[red]✗ Error:[/red] {message}"
  return .exit 1

def tellGeneration (message : String) : Act Ending := do
  say s!"[red]✗ Generation failed:[/red] {message}"
  followRecords (Traced.emit ⟨.debug, logger, "Generation failed"⟩)
  return .exit 1

def tell : Failure → Act Ending
  | .command e => tellError e.message
  | .settings e => tellError e.message
  | .source e => tellError e.message
  | .generation e => tellGeneration e.message
  | .template e => tellGeneration e.message
  | e => throw e

def whole (verbose : Bool) (v : Verb) (g : Given) : Act Ending := do
  try
    perform verbose v g
    return .exit 0
  catch e => tell e

def run (args : List String) (tree : FileTree) (network : Network) : Outcome :=
  let world : World := ⟨tree, network, [], []⟩
  match readArguments args with
  | .error (.help p) => ⟨.exit 0, "", false, { world with printed := p.help }⟩
  | .error .edition => ⟨.exit 0, "", false, { world with printed := [edition] }⟩
  | .error (.misuse p m) => ⟨.exit 2, s!"{p.title}: error: {m.message}", false, world⟩
  | .ok ⟨verbose, none⟩ =>
    ⟨.exit 1, "", verbose, { world with printed := Part.program.help }⟩
  | .ok ⟨verbose, some (v, g)⟩ =>
    let (r, world') := (whole verbose v g).run.run world
    match r with
    | .ok ending => ⟨ending, "", verbose, world'⟩
    | .error e => ⟨.raised e, "", verbose, world'⟩

/-- The records that are shown: all of them in a verbose run, else none, since there are no
warnings among them. -/
def Outcome.records (o : Outcome) : List Log.Record :=
  if o.verbose then o.world.events.filterMap fun e => match e with
    | .note r => some r
    | .request _ _ => none
  else []

end VueWrap.Command
