import VueWrap.Module.Block
import VueWrap.Text.Lines

/-! # Rendered modules

The modules that are written: one for every component, the index, and one for
every group of shared exports.
-/

namespace VueWrap.Module

/-- The major versions of Vue that modules are rendered for. -/
inductive VueVersion where
  | two
  | three
deriving DecidableEq, Repr

def VueVersion.of? (v : Value) : Option VueVersion :=
  if v.same (.int 2) then some .two
  else if v.same (.int 3) then some .three
  else none

/-- The children to be named in a module: a component without any leaves them out. -/
def namedChildren : Option Children → Children
  | none => []
  | some cs => cs

/-- The imports of a component, and the type of its widget's options. -/
def opening (package : String) (c : Component) : List Char :=
  when c.hasTypeParams (line ["export \x7b ExplicitTypes \x7d from \"", package, "\";"]) ++
  line ["import ", c.widget.name, ", \x7b Properties \x7d from \"", package, "\";"] ++
  line ["import \x7b ", c.base.name, " \x7d from \"", c.base.path.display, "\";"] ++
  when (c.nested.any fun ns => !ns.isEmpty)
    (line ["import \x7b ", c.config.name, " \x7d from \"", c.config.path.display, "\";"])

def optionsType (ps : List PropDecl) : List Char :=
  if ps.isEmpty then line ["type AccessibleOptions = Pick<Properties, never>;"]
  else
    line ["type AccessibleOptions = Pick<Properties,"] ++
    listed " |" (ps.map fun p => text ["  ", Json.write p.name]) ++
    line [">;"]

def interface (c : Component) : List Char :=
  line ["interface ", c.name, " extends AccessibleOptions \x7b"] ++
  line ["  readonly instance?: ", c.widget.name, ";"] ++
  line ["\x7d"]

/-- The events of a component, or the binding of its value in the older version. -/
def binding (v : VueVersion) (c : Component) : List Char :=
  match v with
  | .three => emitsBlock (events c.props c.hasModel) ++ line [","]
  | .two => when c.hasModel (line ["  model: \x7b prop: \"value\", event: \"update:value\" \x7d,"])

def creation (c : Component) : List Char :=
  line ["  beforeCreate() \x7b"] ++
  line ["    (this as any).$_WidgetClass = ", c.widget.name, ";"] ++
  when c.hasModel (line ["    (this as any).$_hasModel = true;"]) ++
  when (!(namedChildren c.children).isEmpty)
    (text ["    (this as any).$_expectedChildren = "] ++
      Text.indent 4 false (childrenBlock (namedChildren c.children)) ++ line [";"]) ++
  line ["  \x7d"]

def definition (v : VueVersion) (c : Component) (props : List Char) : List Char :=
  line ["const ", c.name, " = ", c.base.name, "(\x7b"] ++
  props ++ line [","] ++
  binding v c ++
  line ["  computed: \x7b"] ++
  line ["    instance(): ", c.widget.name, " \x7b"] ++
  line ["      return (this as any).$_instance;"] ++
  line ["    \x7d"] ++
  line ["  \x7d,"] ++
  creation c ++
  line ["\x7d);"]

def assignment (n : Nested) (field : String) (value : List Char) : List Char :=
  text ["(", n.name, " as any).", field, " = "] ++ value ++ line [";"]

def nestedDefinition (v : VueVersion) (factory : String) (n : Nested) (props : List Char) :
    List Char :=
  line [] ++
  line ["const ", n.name, " = ", factory, "(\x7b"] ++
  when (v = .three) (emitsBlock (events n.props false) ++ line [","]) ++
  props ++ line [] ++
  line ["\x7d);"] ++
  assignment n "$_optionName" (Json.print n.option) ++
  when n.isCollectionItem.holds (assignment n "$_isCollectionItem" (text ["true"])) ++
  when n.predefined.holds (assignment n "$_predefinedProps" (Json.printBlock 2 n.predefined)) ++
  when (!(namedChildren n.children).isEmpty)
    (assignment n "$_expectedChildren" (childrenBlock (namedChildren n.children)))

def nestedDefinitions (v : VueVersion) (factory : String) (ns : List Nested) :
    Option (List Char) :=
  (ns.mapM fun n => (propsBlock n.props).map (nestedDefinition v factory n)).map List.flatten

/-- The exports of a module: its component, and those nested in it. -/
def closing (c : Component) (ns : List Nested) : List Char :=
  line [] ++
  line ["export default ", c.name, ";"] ++
  line ["export \x7b"] ++
  listed "," ((c.name :: ns.map (·.name)).map fun n => text ["  ", n]) ++
  line ["\x7d;"]

/-- The package, the version and the shared exports that a module is rendered for. -/
structure Target where
  package : Value
  version : VueVersion
  reexports : Bool

def Target.path (t : Target) (c : Component) : String :=
  t.package.display ++ "/" ++ c.widget.path.display

/-- The module of a component. It cannot be written where a list of types has an entry that is no
text. -/
def component (t : Target) (c : Component) : Option (List Char) := do
  let path := t.path c
  let ns := c.nested.getD []
  let props ← propsBlock c.props
  let inner ← nestedDefinitions t.version c.config.name ns
  return opening path c ++
    line [] ++
    optionsType c.props ++
    line [] ++
    interface c ++
    line [] ++
    definition t.version c props ++
    inner ++
    closing c ns ++
    when (t.reexports && c.hasReexports)
      (line ["export type * as ", c.widget.name, "Types from \"", path, "_types\";"])

/-- An entry of the index: an exported name and the module that has it. -/
structure Entry where
  name : Value
  path : Value

def index (entries : List Entry) : List Char :=
  entries.flatMap fun e =>
    line ["export \x7b ", e.name.display, " \x7d from \"", e.path.display, "\";"]

def shared (package key : Value) (names : List Value) : List Char :=
  line ["export \x7b"] ++
  listed "," (names.map fun n => text ["  ", n.display]) ++
  line ["\x7d from \"", package.display, "/", key.display, "\";"]

/-- The group of shared exports that has the index of its directory. -/
def sharedIndex : String := "common"

def sharedFile (key extension : Value) : Except Failure String :=
  match key with
  | .str s =>
    let stem := if s = sharedIndex then "index" else
      String.ofList (if (sharedIndex ++ "/").toList.isPrefixOf s.toList
        then s.toList.drop (sharedIndex.length + 1) else s.toList)
    .ok (stem ++ extension.display)
  | _ => .error .wrongKind

end VueWrap.Module
