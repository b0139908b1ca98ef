import VueWrap.Json.Display

/-! # Components

The records that the modules are rendered from: a component with its props, the
children it expects, and the components nested in it. An absent collection is
not the same as an empty one: it says that the notion does not apply.
-/

namespace VueWrap

structure Import where
  name : String
  path : Value

/-- The values that a prop is limited to, and the name of their type in small letters. -/
structure Restriction where
  type : String
  values : List Value

/-- A prop with the tokens of its types; without tokens it takes any value. -/
structure PropDecl where
  name : Value
  types : List Value
  isArray : Bool
  restriction : Option Restriction

/-- How a child is placed: as an item of a collection, or in an option of its own. -/
structure Child where
  isCollectionItem : Bool
  option : Value

abbrev Children := List (Value × Child)

/-- A component that configures an option of another one. -/
structure Nested where
  name : String
  option : Value
  props : List PropDecl
  isCollectionItem : Value
  predefined : Value
  children : Option Children

structure Component where
  name : String
  widget : Import
  base : Import
  config : Import
  props : List PropDecl
  hasModel : Bool
  hasTypeParams : Bool
  nested : Option (List Nested)
  children : Option Children
  hasReexports : Bool

structure ComponentFile where
  fileName : String
  component : Component

end VueWrap
