import VueWrap.Component
import VueWrap.Naming
import VueWrap.Resolver

/-! # From widgets to components

A widget becomes a component: its options become props, its nested declarations
become components of their own, and its file is named by the words of its name.
-/

namespace VueWrap

namespace Mapping

def mark : String := "Dx"

/-- An option of this name is no prop. -/
def reserved : String := "key"

def baseFactory : String := "createComponent"

def extensionFactory : String := "createExtensionComponent"

def configFactory : String := "createConfigurationComponent"

def defaultExport : String := "default"

/-- The restriction by the first of some types. Values of strings are left to the declared types
and restrict nothing. -/
def restriction : List TypeRef → Except Failure (Option Restriction)
  | [] => .ok none
  | t :: _ =>
    match t.type with
    | .str name =>
      let type := Text.lower name
      if type = "string" then .ok none
      else match t.acceptable.items? with
        | some values => .ok (some { type, values })
        | none => .error .wrongKind
    | _ => .error .wrongKind

/-- The single token of a list. -/
def isArrayOnly : List Value → Bool
  | [t] => t.same Resolver.arrayToken
  | _ => false

def prop (r : Resolver) (g : Registry) (o : OptionDecl) : Traced Log.Record PropDecl := do
  let types ← r.resolved g o.types
  let restriction ← restriction (o.types.filter (·.acceptable.holds))
  return { name := o.name, types, isArray := isArrayOnly types, restriction }

/-- The option is not a reserved one; its name has to be a possible key. -/
def isPlain (o : OptionDecl) : Except Failure Bool :=
  if o.name.isKey then .ok (!o.name.same (.str reserved)) else .error .wrongKind

def props (r : Resolver) (g : Registry) : List OptionDecl → Traced Log.Record (List PropDecl)
  | [] => pure []
  | o :: os => do
    if ← isPlain o then
      let p ← prop r g o
      let ps ← props r g os
      return p :: ps
    else props r g os

def child (c : ChildRef) : Child := ⟨c.isCollectionItem.holds, c.option⟩

/-- The children by the names of their components, which have to be possible keys. Without
references there are no children at all. -/
def children (cs : List ChildRef) : Except Failure (Option Children) :=
  if cs.isEmpty then .ok none
  else if cs.all fun c => c.component.isKey then
    .ok (some (Assoc.ofList Value.same (cs.map fun c => (c.component, child c))))
  else .error .wrongKind

/-- A name with its first character in capital form; an empty value stays as it is. -/
def capitalized (name : Value) : Except Failure Value :=
  if name.isEmpty then .ok name
  else match name with
    | .str s => .ok (.str (String.ofList (Text.capitalFirst s.toList)))
    | .obj _ => .error (.missingKey (.int 0))
    | _ => .error .wrongKind

def nested (r : Resolver) (g : Registry) (d : NestedDecl) : Traced Log.Record Nested := do
  let name ← capitalized d.name
  let props ← props r g d.props
  let children ← children d.children
  return {
    name := mark ++ name.display
    option := d.option
    props
    isCollectionItem := d.isCollectionItem
    predefined := d.predefined
    children }

def nestedAll (r : Resolver) (g : Registry) :
    Option (List NestedDecl) → Traced Log.Record (Option (List Nested))
  | none => pure none
  | some ds => do
    let ns ← Traced.each (nested r g) ds
    return some ns

def widgetName : Value → Except Failure String
  | .str s => .ok (Naming.withoutMark Metadata.mark s)
  | _ => .error .wrongKind

/-- Where the factories are imported from, and the extension of the files. -/
structure Places where
  base : Value
  config : Value
  extension : Value

def widget (r : Resolver) (g : Registry) (places : Places) (w : Widget) :
    Traced Log.Record ComponentFile := do
  let name ← widgetName w.name
  let nested ← nestedAll r g w.nested
  let props ← props r g w.options
  let children ← children w.children
  return {
    fileName := Naming.fileStem name ++ places.extension.display
    component := {
      name := mark ++ name
      widget := ⟨name, w.exportPath⟩
      base := ⟨if w.isExtension.holds then extensionFactory else baseFactory, places.base⟩
      config := ⟨configFactory, places.config⟩
      props
      hasModel := w.isEditor.holds
      hasTypeParams := !w.typeParams.isEmpty
      nested
      children
      hasReexports := w.reexports.any fun e => !e.equal (.str defaultExport) } }

end Mapping

end VueWrap
