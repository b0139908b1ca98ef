import VueWrap.Failure

/-! # Widget metadata

A metadata document describes widgets, reusable types and shared exports. The
reader is lenient: it asks for the names that the records are found by, takes an
empty value for an absent list, and keeps every other value as it is, whatever
its kind.
-/

namespace VueWrap

/-- A type named by an option, and the values that the option is limited to. -/
structure TypeRef where
  type : Value
  acceptable : Value

structure OptionDecl where
  name : Value
  types : List TypeRef

/-- A component that may stand inside another one, and the option that it fills. -/
structure ChildRef where
  component : Value
  option : Value
  isCollectionItem : Value

/-- An option whose value is a component with options of its own. -/
structure NestedDecl where
  name : Value
  option : Value
  props : List OptionDecl
  isCollectionItem : Value
  predefined : Value
  children : List ChildRef

/-- A reusable type: other types that it stands for, and the shape of its objects. -/
structure TypeDecl where
  name : Value
  types : List TypeRef
  props : List OptionDecl

/-- A widget. Without `nested` it has no notion of nested components at all. -/
structure Widget where
  name : Value
  exportPath : Value
  options : List OptionDecl
  isExtension : Value
  isEditor : Value
  typeParams : List Value
  nested : Option (List NestedDecl)
  children : List ChildRef
  reexports : List Value

structure Metadata where
  widgets : List Widget
  types : List TypeDecl
  commonReexports : Value

namespace Metadata

def fields : Value → Except Failure (List (String × Value))
  | .obj fs => .ok fs
  | _ => .error .wrongKind

def required (fs : List (String × Value)) (key : String) : Except Failure Value :=
  match Value.field? fs key with
  | some v => .ok v
  | none => .error (.missingKey (.str key))

/-- The value of a key, or `default` where it is absent. -/
def optional (fs : List (String × Value)) (key : String) (default : Value) : Value :=
  (Value.field? fs key).getD default

/-- The entries of a list. A text or an object with anything in it has no entries that could be
read. -/
def listed {α : Type} (entry : Value → Except Failure α) : Value → Except Failure (List α)
  | .arr items => items.mapM entry
  | .str s => if s.isEmpty then .ok [] else .error .wrongKind
  | .obj fs => if fs.isEmpty then .ok [] else .error .wrongKind
  | _ => .error .wrongKind

/-- The entries under a key; an absent or empty value has none. -/
def entries {α : Type} (entry : Value → Except Failure α) (fs : List (String × Value))
    (key : String) : Except Failure (List α) :=
  let v := optional fs key .null
  if v.isEmpty then .ok [] else listed entry v

/-- The items under a key, taken as they are; an absent or empty value has none. -/
def items (fs : List (String × Value)) (key : String) : Except Failure (List Value) :=
  let v := optional fs key .null
  if v.isEmpty then .ok [] else match v.items? with
    | some vs => .ok vs
    | none => .error .wrongKind

def typeRef (v : Value) : Except Failure TypeRef := do
  let fs ← fields v
  let type ← required fs "type"
  return { type, acceptable := optional fs "acceptableValues" .null }

def optionDecl (v : Value) : Except Failure OptionDecl := do
  let fs ← fields v
  let name ← required fs "name"
  let types ← entries typeRef fs "types"
  return { name, types }

def childRef (v : Value) : Except Failure ChildRef := do
  let fs ← fields v
  let component ← required fs "componentName"
  let option ← required fs "optionName"
  return { component, option, isCollectionItem := optional fs "isCollectionItem" (.bool false) }

def nestedDecl (v : Value) : Except Failure NestedDecl := do
  let fs ← fields v
  let name ← required fs "name"
  let option ← required fs "optionName"
  let props ← entries optionDecl fs "props"
  let children ← entries childRef fs "nesteds"
  return {
    name, option, props, children
    isCollectionItem := optional fs "isCollectionItem" (.bool false)
    predefined := optional fs "predefinedProps" .null }

def typeDecl (v : Value) : Except Failure TypeDecl := do
  let fs ← fields v
  let name ← required fs "name"
  let types ← entries typeRef fs "types"
  let props ← entries optionDecl fs "props"
  return { name, types, props }

/-- The nested components of a widget: none at all where the key is absent or null. -/
def nestedDecls (fs : List (String × Value)) : Except Failure (Option (List NestedDecl)) :=
  match optional fs "complexOptions" .null with
  | .null => .ok none
  | v => (listed nestedDecl v).map some

def widget (v : Value) : Except Failure Widget := do
  let fs ← fields v
  let name ← required fs "name"
  let options ← entries optionDecl fs "options"
  let typeParams ← items fs "optionsTypeParams"
  let nested ← nestedDecls fs
  let children ← entries childRef fs "nesteds"
  let reexports ← items fs "reexports"
  return {
    name, options, typeParams, nested, children, reexports
    exportPath := optional fs "exportPath" (.str "")
    isExtension := optional fs "isExtension" (.bool false)
    isEditor := optional fs "isEditor" (.bool false) }

def read (v : Value) : Except Failure Metadata := do
  let fs ← fields v
  let widgets ← entries widget fs "widgets"
  let types ← entries typeDecl fs "customTypes"
  return { widgets, types, commonReexports := optional fs "commonReexports" .null }

def mark : String := "dx"

/-- The first widget with a name, which may be given without its mark. -/
def widget? (m : Metadata) (name : Value) : Option Widget :=
  m.widgets.find? fun w => w.name.equal name || w.name.equal (.str (mark ++ name.display))

end Metadata

end VueWrap
