import VueWrap.Proofs.Mapping.Correspondence

/-! # The parts of a mapped component

Whatever widget a component comes from, the types of its props are of the form
that the resolver gives, and its factories have fixed names. The names of its
props are those of options, and its path is that of the widget.
-/

namespace VueWrap

open Metadata

/-- The names of the factories that a component and those nested in it are made by. -/
structure Component.HasFactories (c : Component) : Prop where
  base : c.base.name = Mapping.baseFactory ∨ c.base.name = Mapping.extensionFactory
  config : c.config.name = Mapping.configFactory

/-- What the file of a widget of this name has, apart from what is resolved or collected. -/
structure ComponentFile.IsFileOf (file : ComponentFile) (places : Mapping.Places) (w : Widget)
    (name : String) : Prop where
  widgetName : Mapping.widgetName w.name = .ok name
  fileName : file.fileName = Naming.fileStem name ++ places.extension.display
  componentName : file.component.name = Mapping.mark ++ name
  widget : file.component.widget = ⟨name, w.exportPath⟩
  base : file.component.base = ⟨if w.isExtension.holds then Mapping.extensionFactory
    else Mapping.baseFactory, places.base⟩
  config : file.component.config = ⟨Mapping.configFactory, places.config⟩
  hasModel : file.component.hasModel = w.isEditor.holds

theorem ComponentFile.IsFileOf.hasFactories {file : ComponentFile} {places : Mapping.Places}
    {w : Widget} {name : String} (h : file.IsFileOf places w name) :
    file.component.HasFactories where
  base := by
    rw [h.base]
    by_cases hextension : w.isExtension.holds = true
    · exact Or.inr (if_pos hextension)
    · exact Or.inl (if_neg hextension)
  config := by rw [h.config]

/-- The names that are joined to others in its module are texts. -/
structure Component.Joinable (c : Component) : Prop where
  path : IsText c.widget.path
  props : ∀ p ∈ c.props, IsText p.name
  nested : ∀ n ∈ c.nested.getD [], ∀ p ∈ n.props, IsText p.name

theorem OptionDecl.AllBecome.isText_name {os : List OptionDecl} {ps : List PropDecl}
    (h : AllBecome os ps) (hos : ∀ o ∈ os, o.WellFormed) : ∀ p ∈ ps, IsText p.name := by
  induction h with
  | nil => exact List.forall_mem_nil _
  | reserved _ _ ih => exact ih (List.forall_mem_cons.mp hos).2
  | prop _ hp _ ih =>
    rw [List.forall_mem_cons] at hos
    exact List.forall_mem_cons.mpr ⟨hp.name ▸ hos.1.name, ih hos.2⟩

theorem NestedDecl.isText_name_of_becomes {ds : List NestedDecl} {ns : List Nested}
    (h : List.Forall₂ Becomes ds ns) (hds : ∀ d ∈ ds, d.WellFormed) :
    ∀ n ∈ ns, ∀ p ∈ n.props, IsText p.name := by
  induction h with
  | nil => exact List.forall_mem_nil _
  | cons hd _ ih =>
    rw [List.forall_mem_cons] at hds
    exact List.forall_mem_cons.mpr ⟨hd.props.isText_name hds.1.props, ih hds.2⟩

theorem Widget.Becomes.joinable {w : Widget} {c : Component} (h : w.Becomes c) (hw : w.WellFormed)
    (hpath : IsText c.widget.path) : c.Joinable where
  path := hpath
  props := h.props.isText_name hw.options
  nested := by
    have hnested := h.nested
    have hds := hw.nested
    cases hw' : w.nested <;> cases hc : c.nested <;> rw [hw', hc] at hnested <;> cases hnested
    · exact List.forall_mem_nil _
    · rename_i ds ns h
      exact NestedDecl.isText_name_of_becomes h (hds ds hw')

theorem Traced.givesOnly_each_forall {ε α β : Type} {f : α → Traced ε β} {Q : β → Prop}
    (h : ∀ a, GivesOnly (f a).result Q) (as : List α) :
    GivesOnly (Traced.each f as).result fun bs => ∀ b ∈ bs, Q b := by
  induction as with
  | nil => exact givesOnly_ok (List.forall_mem_nil _)
  | cons a as ih =>
    refine givesOnly_bind (h a) fun b hb => ?_
    refine givesOnly_bind ih fun bs hbs => ?_
    exact givesOnly_ok (List.forall_mem_cons.mpr ⟨hb, hbs⟩)

namespace Mapping

variable {r : Resolver} {g : Registry} {P : Form}

section Types

variable (hP : P Resolver.objectToken) (hr : r.TokensOf P)
include hP hr

theorem givesOnly_prop_typesOf (o : OptionDecl) :
    GivesOnly (prop r g o).result (PropDecl.TypesOf P) := by
  refine Traced.givesOnly_bind (Resolver.givesOnly_resolve_of_tokensOf hP hr) fun types htypes => ?_
  refine Traced.givesOnly_bind_of_forall fun _ => ?_
  exact givesOnly_ok htypes

theorem givesOnly_props_typesOf (os : List OptionDecl) :
    GivesOnly (props r g os).result fun ps => ∀ p ∈ ps, p.TypesOf P := by
  induction os with
  | nil => exact givesOnly_ok (List.forall_mem_nil _)
  | cons o os ih =>
    refine Traced.givesOnly_bind_of_forall fun plain => ?_
    cases plain with
    | false => exact ih
    | true =>
      refine Traced.givesOnly_bind (givesOnly_prop_typesOf hP hr o) fun p hp => ?_
      refine Traced.givesOnly_bind ih fun ps hps => ?_
      exact givesOnly_ok (List.forall_mem_cons.mpr ⟨hp, hps⟩)

theorem givesOnly_nested_typesOf (d : NestedDecl) :
    GivesOnly (nested r g d).result fun n => ∀ p ∈ n.props, p.TypesOf P := by
  refine Traced.givesOnly_bind_of_forall fun _ => ?_
  refine Traced.givesOnly_bind (givesOnly_props_typesOf hP hr d.props) fun props hprops => ?_
  refine Traced.givesOnly_bind_of_forall fun _ => ?_
  exact givesOnly_ok hprops

theorem givesOnly_nestedAll_typesOf (ds? : Option (List NestedDecl)) :
    GivesOnly (nestedAll r g ds?).result
      fun ns? => ∀ ns ∈ ns?, ∀ n ∈ ns, ∀ p ∈ n.props, p.TypesOf P := by
  cases ds? with
  | none => exact givesOnly_ok (by rintro _ ⟨⟩)
  | some ds =>
    have hall := Traced.givesOnly_each_forall (givesOnly_nested_typesOf (g := g) hP hr) ds
    refine Traced.givesOnly_bind hall fun ns hns => givesOnly_ok ?_
    rintro _ ⟨rfl⟩
    exact hns

theorem givesOnly_widget_typesOf (places : Places) (w : Widget) :
    GivesOnly (widget r g places w).result fun file => file.component.TypesOf P := by
  refine Traced.givesOnly_bind_of_forall fun _ => ?_
  refine Traced.givesOnly_bind (givesOnly_nestedAll_typesOf hP hr w.nested) fun nested hnested => ?_
  refine Traced.givesOnly_bind (givesOnly_props_typesOf hP hr w.options) fun props hprops => ?_
  refine Traced.givesOnly_bind_of_forall fun _ => ?_
  exact givesOnly_ok ⟨hprops, hnested⟩

end Types

theorem givesOnly_widget_isFileOf (places : Places) (w : Widget) :
    GivesOnly (widget r g places w).result fun file => ∃ name, file.IsFileOf places w name := by
  have hname : GivesOnly (widgetName w.name) fun name => widgetName w.name = .ok name :=
    fun _ h => h
  refine Traced.givesOnly_bind hname fun name hname => ?_
  refine Traced.givesOnly_bind_of_forall fun _ => ?_
  refine Traced.givesOnly_bind_of_forall fun _ => ?_
  refine Traced.givesOnly_bind_of_forall fun _ => ?_
  exact givesOnly_ok ⟨name, hname, rfl, rfl, rfl, rfl, rfl, rfl⟩

/-- A well-formed widget of a path that is a text becomes a component whose module can be
rendered. -/
theorem gives_joinable (hr : r.Textual) (hg : g.WellFormed) (places : Places) {w : Widget}
    (hw : w.WellFormed) (hpath : IsText w.exportPath) :
    Gives (widget r g places w).result fun file =>
      file.component.Textual ∧ file.component.Joinable := by
  obtain ⟨file, hfile, htextual⟩ := gives_widget hr hg places hw
  obtain ⟨name, hof⟩ := givesOnly_widget_isFileOf places w file hfile
  refine ⟨file, hfile, htextual, (givesOnly_widget places hw file hfile).joinable hw ?_⟩
  rw [hof.widget]
  exact hpath

end Mapping

end VueWrap
