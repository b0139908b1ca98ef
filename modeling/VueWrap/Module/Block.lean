import VueWrap.Component
import VueWrap.Failure
import VueWrap.Json.Print
import VueWrap.Module.Lines

/-! # Blocks of a component module

The object literals of a component: its props, the events it emits, and the
children it expects. The types of a prop are written as one constructor, as a
list of constructors, or as an empty object where any value is taken.
-/

namespace VueWrap.Module

def bracketed (v : List Value) : Except Failure Value := do
  let names ← v.mapM fun t => match t with
    | .str s => .ok s
    | _ => .error .wrongKind
  return .str ("[" ++ ", ".intercalate names ++ "]")

/-- The constructors of a prop: an empty object for none, a single one by itself, a list of
texts in brackets. -/
def constructors (types : Value) : Except Failure Value :=
  if types.isEmpty then .ok (.str "\x7b\x7d")
  else match types.items? with
    | none => .error .wrongKind
    | some [t] => match types with
      | .obj _ => .error (.missingKey (.int 0))
      | _ => .ok t
    | some ts => bracketed ts

/-- The text of the constructors, where they can be written. -/
def constructorText (types : List Value) : Option String :=
  match constructors (.arr types) with
  | .ok v => some v.display
  | .error _ => none

def validator (r : Restriction) : List Char :=
  text ["      validator: (v) => typeof(v) !== ", Json.write (.str r.type), " || ",
    Json.write (.arr r.values), ".indexOf(v) !== -1"]

def propEntry (p : PropDecl) : Option (List Char) :=
  match constructorText p.types with
  | none => none
  | some types =>
    match p.restriction with
    | none => some (text ["    ", p.name.display, ": ", types])
    | some r =>
      some (line ["    ", p.name.display, ": \x7b"] ++ line ["      type: ", types, ","] ++
        validator r ++ text ["\n    \x7d"])

def propsBlock (ps : List PropDecl) : Option (List Char) :=
  match ps.mapM propEntry with
  | none => none
  | some entries => some (line ["  props: \x7b"] ++ listed "," entries ++ text ["  \x7d"])

/-- The state that every component shares with its parent, besides its props. -/
def sharedState : List String := ["isActive", "hoveredElement"]

def updateOf (name : String) : String := "update:" ++ name

def events (ps : List PropDecl) (hasModel : Bool) : List String :=
  sharedState.map updateOf ++ ps.map (fun p => updateOf p.name.display) ++
    if hasModel then [updateOf "modelValue"] else []

def eventEntry (event : String) : List Char := text ["    ", Json.write (.str event), ": null"]

def emitsBlock (names : List String) : List Char :=
  line ["  emits: \x7b"] ++ listed "," (names.map eventEntry) ++ text ["  \x7d"]

def childEntry (c : Value × Child) : List Char :=
  text ["  ", c.1.display, ": \x7b isCollectionItem: ", Json.write (.bool c.2.isCollectionItem),
    ", optionName: ", Json.write c.2.option, " \x7d"]

def childrenBlock (cs : Children) : List Char :=
  line ["\x7b"] ++ listed "," (cs.map childEntry) ++ text ["\x7d"]

end VueWrap.Module
