import VueWrap.Module.Render

/-! # Outlines of component modules

A module in items: the constants that it declares, the literals of props and
emits with their keys, its list of exports, and the code around them. The text
of a module is the text of its outline, item after item.
-/

namespace VueWrap.Module

inductive Item where
  | code (cs : List Char)
  /-- The line that declares a constant and calls its factory. -/
  | constant (name factory : String)
  /-- The props literal: keys with the texts of their values. -/
  | props (fields : List (String × List Char))
  /-- The emits literal, by its keys. -/
  | emits (keys : List String)
  /-- The list of exported names. -/
  | exports (names : List String)

namespace Item

def text : Item → List Char
  | code cs => cs
  | constant name factory => line ["const ", name, " = ", factory, "(\x7b"]
  | props fields => line ["  props: \x7b"] ++
      listed "," (fields.map fun f => Module.text ["    ", f.1, ": "] ++ f.2) ++
      Module.text ["  \x7d"]
  | emits keys => emitsBlock keys
  | exports names =>
    line ["export \x7b"] ++ listed "," (names.map fun n => Module.text ["  ", n]) ++ line ["\x7d;"]

def constant? : Item → Option String
  | constant name _ => some name
  | _ => none

def exports? : Item → Option (List String)
  | exports names => some names
  | _ => none

def propKeys? : Item → Option (List String)
  | props fields => some (fields.map (·.1))
  | _ => none

def emitKeys? : Item → Option (List String)
  | emits keys => some keys
  | _ => none

end Item

def textOf (items : List Item) : List Char := items.flatMap Item.text

def propField (p : PropDecl) : Option (String × List Char) :=
  (constructorText p.types).map fun types =>
    (p.name.display, match p.restriction with
      | none => types.toList
      | some r => line ["\x7b"] ++ line ["      type: ", types, ","] ++ validator r ++
          text ["\n    \x7d"])

def propsItem (ps : List PropDecl) : Option Item := (ps.mapM propField).map .props

def emitsItems (v : VueVersion) (keys : List String) : List Item :=
  match v with
  | .three => [.emits keys, .code (line [","])]
  | .two => []

def behaviour (v : VueVersion) (c : Component) : List Char :=
  when (v = .two && c.hasModel)
    (line ["  model: \x7b prop: \"value\", event: \"update:value\" \x7d,"]) ++
  line ["  computed: \x7b"] ++
  line ["    instance(): ", c.widget.name, " \x7b"] ++
  line ["      return (this as any).$_instance;"] ++
  line ["    \x7d"] ++
  line ["  \x7d,"] ++
  creation c ++
  line ["\x7d);"]

def assignments (n : Nested) : List Char :=
  line [] ++ line ["\x7d);"] ++
  assignment n "$_optionName" (Json.print n.option) ++
  when n.isCollectionItem.holds (assignment n "$_isCollectionItem" (text ["true"])) ++
  when n.predefined.holds (assignment n "$_predefinedProps" (Json.printBlock 2 n.predefined)) ++
  when (!(namedChildren n.children).isEmpty)
    (assignment n "$_expectedChildren" (childrenBlock (namedChildren n.children)))

def nestedItems (v : VueVersion) (factory : String) (n : Nested) (props : Item) : List Item :=
  [.code (line []), .constant n.name factory] ++ emitsItems v (events n.props false) ++
    [props, .code (assignments n)]

def definitionItems (v : VueVersion) (c : Component) (props : Item) : List Item :=
  [.constant c.name c.base.name, props, .code (line [","])] ++
    emitsItems v (events c.props c.hasModel) ++ [.code (behaviour v c)]

def closingItems (c : Component) (ns : List Nested) : List Item :=
  [.code (line [] ++ line ["export default ", c.name, ";"]), .exports (c.name :: ns.map (·.name))]

def outline (t : Target) (c : Component) : Option (List Item) := do
  let path := t.path c
  let ns := c.nested.getD []
  let props ← propsItem c.props
  let inner ← ns.mapM fun n => (propsItem n.props).map (nestedItems t.version c.config.name n)
  return .code (opening path c ++ line [] ++ optionsType c.props ++ line [] ++ interface c ++
      line []) ::
    definitionItems t.version c props ++ inner.flatten ++ closingItems c ns ++
    [.code (when (t.reexports && c.hasReexports)
      (line ["export type * as ", c.widget.name, "Types from \"", path, "_types\";"]))]

theorem mapM_map {α β γ : Type} (f : α → Option β) (g : β → γ) (as : List α) :
    (as.mapM fun a => (f a).map g) = (as.mapM f).map (List.map g) := by
  induction as with
  | nil => rfl
  | cons a as ih =>
    rw [List.mapM_cons, List.mapM_cons, ih]
    cases f a with
    | none => rfl
    | some b => cases as.mapM f <;> rfl

@[simp] theorem Item.text_code (cs : List Char) : (Item.code cs).text = cs := rfl

@[simp] theorem textOf_nil : textOf [] = [] := rfl

@[simp] theorem textOf_cons (p : Item) (ps : List Item) : textOf (p :: ps) = p.text ++ textOf ps :=
  List.flatMap_cons

@[simp] theorem textOf_append (ps qs : List Item) : textOf (ps ++ qs) = textOf ps ++ textOf qs :=
  List.flatMap_append

theorem textOf_flatten (pss : List (List Item)) :
    textOf pss.flatten = (pss.map textOf).flatten := by
  induction pss with
  | nil => rfl
  | cons ps pss ih => rw [List.flatten_cons, textOf_append, ih, List.map_cons, List.flatten_cons]

theorem propEntry_eq (p : PropDecl) :
    propEntry p = (propField p).map fun f => text ["    ", f.1, ": "] ++ f.2 := by
  unfold propEntry propField
  cases constructorText p.types with
  | none => rfl
  | some types =>
    cases p.restriction with
    | none => simp
    | some r => simp [line, List.append_assoc]

theorem propsBlock_eq (ps : List PropDecl) : propsBlock ps = (propsItem ps).map Item.text := by
  have hentries : ps.mapM propEntry =
      (ps.mapM propField).map (List.map fun f => text ["    ", f.1, ": "] ++ f.2) := by
    rw [← mapM_map]
    exact congrArg (ps.mapM ·) (funext propEntry_eq)
  rw [propsBlock, propsItem, hentries]
  cases ps.mapM propField <;> rfl

theorem nestedDefinition_eq (v : VueVersion) (factory : String) (n : Nested) (props : Item) :
    nestedDefinition v factory n props.text = textOf (nestedItems v factory n props) := by
  cases v <;>
    simp [nestedDefinition, nestedItems, assignments, emitsItems, Item.text, List.append_assoc]

theorem nestedDefinitions_eq (v : VueVersion) (factory : String) (ns : List Nested) :
    nestedDefinitions v factory ns =
      (ns.mapM fun n => (propsItem n.props).map (nestedItems v factory n)).map fun pss =>
        textOf pss.flatten := by
  have hone (n : Nested) : (propsBlock n.props).map (nestedDefinition v factory n) =
      ((propsItem n.props).map (nestedItems v factory n)).map textOf := by
    rw [propsBlock_eq, Option.map_map, Option.map_map]
    exact congrArg (Option.map · _) (funext fun props => nestedDefinition_eq v factory n props)
  rw [nestedDefinitions, funext hone, mapM_map, Option.map_map]
  exact congrArg (Option.map · _) (funext fun pss => (textOf_flatten pss).symm)

theorem definition_eq (v : VueVersion) (c : Component) (props : Item) :
    definition v c props.text = textOf (definitionItems v c props) := by
  cases v <;>
    simp [definition, definitionItems, behaviour, binding, emitsItems, Item.text, List.append_assoc]

theorem closing_eq (c : Component) (ns : List Nested) :
    closing c ns = textOf (closingItems c ns) := by
  simp [closing, closingItems, Item.text, List.append_assoc]

/-- A module is the text of its outline, and there is none where there is no outline. -/
theorem component_eq (t : Target) (c : Component) : component t c = (outline t c).map textOf := by
  rw [component, outline, propsBlock_eq, nestedDefinitions_eq]
  cases propsItem c.props with
  | none => rfl
  | some props =>
    cases (c.nested.getD []).mapM fun n =>
        (propsItem n.props).map (nestedItems t.version c.config.name n) with
    | none => simp
    | some pss => simp [definition_eq, closing_eq, List.append_assoc]

end VueWrap.Module
