import VueWrap.Mapping
import VueWrap.Proofs.Resolver.Tokens

/-! # The mapping of well-formed widgets

A well-formed widget becomes a component, and the types of all its props are of
the form that the resolver gives: texts, as a rule, so that its module can be
written.
-/

namespace VueWrap

open Metadata

def PropDecl.TypesOf (P : Form) (p : PropDecl) : Prop := ∀ t ∈ p.types, P t

def PropDecl.Textual (p : PropDecl) : Prop := p.TypesOf IsText

structure Component.TypesOf (P : Form) (c : Component) : Prop where
  props : ∀ p ∈ c.props, p.TypesOf P
  nested : ∀ ns ∈ c.nested, ∀ n ∈ ns, ∀ p ∈ n.props, p.TypesOf P

def Component.Textual (c : Component) : Prop := c.TypesOf IsText

theorem Traced.gives_bind {ε α β : Type} {x : Traced ε α} {f : α → Traced ε β} {P : α → Prop}
    {Q : β → Prop} (hx : Gives x.result P) (hf : ∀ a, P a → Gives (f a).result Q) :
    Gives (x >>= f).result Q := by
  rw [Traced.result_bind]
  exact hx.bind hf

theorem Traced.gives_each {ε α β : Type} {f : α → Traced ε β} {P : β → Prop} {as : List α}
    (h : ∀ a ∈ as, Gives (f a).result P) :
    Gives (Traced.each f as).result fun bs => ∀ b ∈ bs, P b := by
  induction as with
  | nil => exact gives_ok_iff.mpr fun _ hb => absurd hb List.not_mem_nil
  | cons a as ih =>
    rw [List.forall_mem_cons] at h
    refine Traced.gives_bind h.1 fun b hb => ?_
    refine Traced.gives_bind (ih h.2) fun bs hbs => ?_
    exact gives_ok_iff.mpr (List.forall_mem_cons.mpr ⟨hb, hbs⟩)

namespace Mapping

variable {r : Resolver} {g : Registry} {name : Value} {P : Form}

/-- Only types with values to be limited to restrict a prop, and of these only the first. -/
theorem succeeds_restriction {ts : List TypeRef} (hts : ∀ t ∈ ts, t.WellFormed)
    (hholds : ∀ t ∈ ts, t.acceptable.holds = true) : Succeeds (restriction ts) := by
  cases ts with
  | nil => exact succeeds_ok
  | cons t ts =>
    have ht := hts t List.mem_cons_self
    obtain ⟨name, hname⟩ := ht.type.exists_eq
    simp only [restriction, hname]
    split
    · exact succeeds_ok
    · rcases ht.acceptable with hnull | ⟨vs, hvs, -⟩
      · have h := hholds t List.mem_cons_self
        rw [hnull] at h
        cases h
      · rw [hvs]
        exact succeeds_ok

theorem succeeds_restriction_filter {ts : List TypeRef} (hts : ∀ t ∈ ts, t.WellFormed) :
    Succeeds (restriction (ts.filter (·.acceptable.holds))) := by
  refine succeeds_restriction (fun t ht => ?_) fun t ht => ?_
  · exact hts t (List.mem_filter.mp ht).1
  · exact (List.mem_filter.mp ht).2

theorem succeeds_isPlain {o : OptionDecl} (ho : IsText o.name) : Succeeds (isPlain o) := by
  rw [isPlain, if_pos ho.isKey]
  exact succeeds_ok

theorem succeeds_children {cs : List ChildRef} (hcs : ∀ c ∈ cs, IsText c.component) :
    Succeeds (children cs) := by
  have hkeys : cs.all (fun c => c.component.isKey) = true :=
    List.all_eq_true.mpr fun c hc => (hcs c hc).isKey
  rw [children, if_pos hkeys]
  split <;> exact succeeds_ok

theorem succeeds_capitalized (h : IsText name) : Succeeds (capitalized name) := by
  obtain ⟨s⟩ := h
  rw [capitalized]
  split <;> exact succeeds_ok

theorem succeeds_widgetName (h : IsText name) : Succeeds (widgetName name) := by
  obtain ⟨s⟩ := h
  exact succeeds_ok

section Components

variable (hP : P Resolver.objectToken) (hr : r.TokensOf P) (hg : g.WellFormed)
include hP hr hg

theorem gives_prop {o : OptionDecl} (ho : o.WellFormed) :
    Gives (prop r g o).result (PropDecl.TypesOf P) := by
  have hresolve := Resolver.gives_resolve_of_tokensOf hP hr hg ho.types
  refine Traced.gives_bind hresolve fun types htypes => ?_
  refine Traced.gives_bind (succeeds_restriction_filter ho.types).gives fun _ _ => ?_
  exact gives_ok_iff.mpr htypes

theorem gives_props {os : List OptionDecl} (hos : ∀ o ∈ os, o.WellFormed) :
    Gives (props r g os).result fun ps => ∀ p ∈ ps, p.TypesOf P := by
  induction os with
  | nil => exact gives_ok_iff.mpr fun _ hp => absurd hp List.not_mem_nil
  | cons o os ih =>
    rw [List.forall_mem_cons] at hos
    rw [props]
    refine Traced.gives_bind (succeeds_isPlain hos.1.name).gives fun plain _ => ?_
    cases plain with
    | false => exact ih hos.2
    | true =>
      refine Traced.gives_bind (gives_prop hP hr hg hos.1) fun p hp => ?_
      refine Traced.gives_bind (ih hos.2) fun ps hps => ?_
      exact gives_ok_iff.mpr (List.forall_mem_cons.mpr ⟨hp, hps⟩)

theorem gives_nested {d : NestedDecl} (hd : d.WellFormed) :
    Gives (nested r g d).result fun n => ∀ p ∈ n.props, p.TypesOf P := by
  refine Traced.gives_bind (succeeds_capitalized hd.name).gives fun _ _ => ?_
  refine Traced.gives_bind (gives_props hP hr hg hd.props) fun props hprops => ?_
  refine Traced.gives_bind (succeeds_children hd.children).gives fun _ _ => ?_
  exact gives_ok_iff.mpr hprops

theorem gives_nestedAll {ds? : Option (List NestedDecl)}
    (hds : ∀ ds ∈ ds?, ∀ d ∈ ds, d.WellFormed) :
    Gives (nestedAll r g ds?).result
      fun ns? => ∀ ns ∈ ns?, ∀ n ∈ ns, ∀ p ∈ n.props, p.TypesOf P := by
  cases ds? with
  | none => exact gives_ok_iff.mpr fun _ h => by cases h
  | some ds =>
    have hall := fun d hd => gives_nested hP hr hg (hds ds rfl d hd)
    refine Traced.gives_bind (Traced.gives_each hall) fun ns hns => gives_ok_iff.mpr ?_
    rintro _ ⟨rfl⟩
    exact hns

/-- A well-formed widget becomes a component with types of the form that the resolver gives. -/
theorem gives_widget_of_tokensOf (places : Places) {w : Widget} (hw : w.WellFormed) :
    Gives (widget r g places w).result fun file => file.component.TypesOf P := by
  refine Traced.gives_bind (succeeds_widgetName hw.name).gives fun _ _ => ?_
  refine Traced.gives_bind (gives_nestedAll hP hr hg hw.nested) fun nested hnested => ?_
  refine Traced.gives_bind (gives_props hP hr hg hw.options) fun props hprops => ?_
  refine Traced.gives_bind (succeeds_children hw.children).gives fun _ _ => ?_
  exact gives_ok_iff.mpr ⟨hprops, hnested⟩

end Components

/-- A well-formed widget becomes a component whose props can all be written. -/
theorem gives_widget (hr : r.Textual) (hg : g.WellFormed) (places : Places) {w : Widget}
    (hw : w.WellFormed) :
    Gives (widget r g places w).result fun file => file.component.Textual :=
  gives_widget_of_tokensOf (isText_str _) hr hg places hw

/-- A well-formed widget becomes a component, whatever the resolver gives. -/
theorem succeeds_widget (r : Resolver) (hg : g.WellFormed) (places : Places) {w : Widget}
    (hw : w.WellFormed) : Succeeds (widget r g places w).result := by
  have hr : r.TokensOf Any := fun _ _ _ _ => trivial
  obtain ⟨file, hfile, -⟩ := gives_widget_of_tokensOf trivial hr hg places hw
  exact ⟨file, hfile⟩

end Mapping

end VueWrap
