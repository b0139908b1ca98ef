import VueWrap.Assoc
import VueWrap.Json.Display
import VueWrap.Metadata

/-! # The registry of types

Type definitions by name. The names stand in the order of their first
definitions, and of several definitions of one name the last one counts.
-/

namespace VueWrap

structure Registry where
  entries : List (Value × TypeDecl)

namespace Registry

def empty : Registry := ⟨[]⟩

def insert (g : Registry) (d : TypeDecl) : Registry :=
  ⟨Assoc.put Value.same g.entries d.name d⟩

/-- The registry of some definitions, all of which need names that can be keys. -/
def ofList (ds : List TypeDecl) : Except Failure Registry :=
  if ds.all fun d => d.name.isKey then .ok (ds.foldl insert empty) else .error .wrongKind

def size (g : Registry) : Nat := g.entries.length

def names (g : Registry) : List Value := g.entries.map (·.1)

def get? (g : Registry) (name : Value) : Option TypeDecl := Assoc.get? Value.same g.entries name

/-- The definition of a name, which has to be a possible key. -/
def look (g : Registry) (name : Value) : Except Failure (Option TypeDecl) :=
  if name.isKey then .ok (g.get? name) else .error .wrongKind

def text (g : Registry) : String := s!"CustomTypeRegistry({(Value.arr g.names).literal})"

end Registry

end VueWrap
