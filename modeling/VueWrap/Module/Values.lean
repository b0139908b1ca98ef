import VueWrap.Module.Render

/-! # Values that can be written in a module

An integer with too many digits has no text, so nothing that holds one can be
rendered. The names that are joined to others, in paths and in events, are looked
at before anything is rendered.
-/

namespace VueWrap

def Restriction.isWritable (r : Restriction) : Bool := Json.itemsWritable r.values

def PropDecl.isWritable (p : PropDecl) : Bool :=
  Json.isWritable p.name && Json.itemsWritable p.types && p.restriction.all Restriction.isWritable

def Children.isWritable (cs : Children) : Bool :=
  cs.all fun c => Json.isWritable c.1 && Json.isWritable c.2.option

def Nested.isWritable (n : Nested) : Bool :=
  Json.isWritable n.option && Json.isWritable n.predefined && n.props.all PropDecl.isWritable &&
    Children.isWritable (n.children.getD [])

def Component.isWritable (c : Component) : Bool :=
  Json.isWritable c.base.path && ((c.nested.getD []).isEmpty || Json.isWritable c.config.path) &&
    c.props.all PropDecl.isWritable && (c.nested.getD []).all Nested.isWritable &&
    Children.isWritable (c.children.getD [])

namespace Module

/-- The props whose names are joined to those of events. -/
def eventProps (v : VueVersion) (c : Component) : List PropDecl :=
  c.props ++ match v with
    | .two => []
    | .three => (c.nested.getD []).flatMap Nested.props

def Target.joins (t : Target) (c : Component) : Bool :=
  Json.isWritable t.package && Json.isWritable c.widget.path &&
    (eventProps t.version c).all fun p => Json.isWritable p.name

def Entry.isWritable (e : Entry) : Bool := Json.isWritable e.name && Json.isWritable e.path

end Module

end VueWrap
