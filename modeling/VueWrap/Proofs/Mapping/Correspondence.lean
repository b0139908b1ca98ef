import Mathlib.Data.List.Forall2
import VueWrap.Proofs.Mapping.Total

/-! # What widgets become

A component corresponds to its widget: the options become its props, without the
reserved ones, the references become its children, and the nested declarations
become components of the same kind. Props have no type twice, and they are
limited by the first type of their option that has values.
-/

namespace VueWrap

open Metadata

/-- The type has some values, `vs`, that an option is limited to. -/
def TypeRef.Limits (t : TypeRef) (vs : List Value) : Prop := t.acceptable = .arr vs ∧ vs ≠ []

/-- The first of some types that has values. -/
inductive TypeRef.FirstLimit : List TypeRef → TypeRef → List Value → Prop
  | here {t : TypeRef} {ts : List TypeRef} {vs : List Value} (h : t.Limits vs) :
    FirstLimit (t :: ts) t vs
  | later {t t' : TypeRef} {ts : List TypeRef} {vs : List Value} (h : ∀ ws, ¬ t.Limits ws)
    (rest : FirstLimit ts t' vs) : FirstLimit (t :: ts) t' vs

/-- The restriction by some types. Values of strings are left to the declared types. -/
inductive TypeRef.Restrict (ts : List TypeRef) : Option Restriction → Prop
  | unlimited (h : ∀ t ∈ ts, ∀ vs, ¬ t.Limits vs) : Restrict ts none
  | strings {t : TypeRef} {vs : List Value} {name : String} (h : FirstLimit ts t vs)
    (hname : t.type = .str name) (hstring : Text.lower name = "string") : Restrict ts none
  | values {t : TypeRef} {vs : List Value} {name : String} (h : FirstLimit ts t vs)
    (hname : t.type = .str name) (hstring : Text.lower name ≠ "string") :
    Restrict ts (some ⟨Text.lower name, vs⟩)

structure OptionDecl.Becomes (o : OptionDecl) (p : PropDecl) : Prop where
  name : p.name = o.name
  types : Resolver.Distinct p.types
  isArray : p.isArray = true ↔ p.types = [Resolver.arrayToken]
  restriction : TypeRef.Restrict o.types p.restriction

/-- Options become props in order, and only the reserved ones become none. -/
inductive OptionDecl.AllBecome : List OptionDecl → List PropDecl → Prop
  | nil : AllBecome [] []
  | reserved {o : OptionDecl} {os : List OptionDecl} {ps : List PropDecl}
    (h : o.name = .str Mapping.reserved) (rest : AllBecome os ps) : AllBecome (o :: os) ps
  | prop {o : OptionDecl} {os : List OptionDecl} {p : PropDecl} {ps : List PropDecl}
    (h : o.name ≠ .str Mapping.reserved) (hp : o.Becomes p) (rest : AllBecome os ps) :
    AllBecome (o :: os) (p :: ps)

/-- References become children, of which there is no empty collection. -/
structure ChildRef.AllBecome (cs : List ChildRef) (children : Option Children) : Prop where
  eq_none_iff : children = none ↔ cs = []
  ne_empty : children ≠ some []

structure NestedDecl.Becomes (d : NestedDecl) (n : Nested) : Prop where
  name : ∀ s, d.name = .str s →
    n.name = Mapping.mark ++ String.ofList (Text.capitalFirst s.toList)
  option : n.option = d.option
  props : OptionDecl.AllBecome d.props n.props
  children : ChildRef.AllBecome d.children n.children

/-- A widget becomes a component, with a component for every nested declaration. -/
structure Widget.Becomes (w : Widget) (c : Component) : Prop where
  props : OptionDecl.AllBecome w.options c.props
  children : ChildRef.AllBecome w.children c.children
  nested : Option.Rel (List.Forall₂ NestedDecl.Becomes) w.nested c.nested

namespace Traced

variable {ε α β : Type} {f : α → Traced ε β}

theorem givesOnly_bind {x : Traced ε α} {P : α → Prop} {Q : β → Prop} (hx : GivesOnly x.result P)
    (hf : ∀ a, P a → GivesOnly (f a).result Q) : GivesOnly (x >>= f).result Q := by
  rw [result_bind]
  exact hx.bind hf

theorem givesOnly_bind_of_forall {x : Traced ε α} {Q : β → Prop}
    (hf : ∀ a, GivesOnly (f a).result Q) : GivesOnly (x >>= f).result Q :=
  givesOnly_bind givesOnly_true fun a _ => hf a

theorem givesOnly_each {R : α → β → Prop} {as : List α}
    (h : ∀ a ∈ as, GivesOnly (f a).result (R a)) :
    GivesOnly (each f as).result (List.Forall₂ R as) := by
  induction as with
  | nil => exact givesOnly_ok .nil
  | cons a as ih =>
    rw [List.forall_mem_cons] at h
    refine givesOnly_bind h.1 fun b hb => ?_
    refine givesOnly_bind (ih h.2) fun bs hbs => ?_
    exact givesOnly_ok (.cons hb hbs)

end Traced

theorem TypeRef.WellFormed.holds_iff {t : TypeRef} (ht : t.WellFormed) :
    t.acceptable.holds = true ↔ ∃ vs, t.Limits vs := by
  rcases ht.acceptable with hnull | ⟨vs, hvs, -⟩
  · simp [Limits, hnull, Value.holds, Value.isEmpty]
  · simp [Limits, hvs, Value.holds, Value.isEmpty]

namespace Mapping

variable {r : Resolver} {g : Registry}

theorem isArrayOnly_iff {types : List Value} :
    isArrayOnly types = true ↔ types = [Resolver.arrayToken] := by
  constructor
  · intro h
    match types, h with
    | [t], h => rw [Resolver.eq_str_of_same (v := t) h, Resolver.arrayToken]
  · rintro rfl
    rfl

theorem restrict_cons {t : TypeRef} {ts : List TypeRef} {limit? : Option Restriction}
    (ht : ∀ vs, ¬ t.Limits vs) (h : TypeRef.Restrict ts limit?) :
    TypeRef.Restrict (t :: ts) limit? := by
  cases h with
  | unlimited hts => exact .unlimited (List.forall_mem_cons.mpr ⟨ht, hts⟩)
  | strings hfirst hname hstring => exact .strings (.later ht hfirst) hname hstring
  | values hfirst hname hstring => exact .values (.later ht hfirst) hname hstring

theorem givesOnly_restriction {ts : List TypeRef} (hts : ∀ t ∈ ts, t.WellFormed) :
    GivesOnly (restriction (ts.filter (·.acceptable.holds))) (TypeRef.Restrict ts) := by
  induction ts with
  | nil => exact givesOnly_ok (.unlimited fun _ ht => absurd ht List.not_mem_nil)
  | cons t ts ih =>
    rw [List.forall_mem_cons] at hts
    by_cases hholds : t.acceptable.holds = true
    case neg =>
      have hno : ∀ vs, ¬ t.Limits vs := fun vs hvs => hholds (hts.1.holds_iff.mpr ⟨vs, hvs⟩)
      rw [List.filter_cons, if_neg hholds]
      exact fun limit? h => restrict_cons hno (ih hts.2 limit? h)
    case pos =>
      obtain ⟨vs, hvs⟩ := hts.1.holds_iff.mp hholds
      obtain ⟨name, hname⟩ := hts.1.type.exists_eq
      rw [List.filter_cons, if_pos hholds]
      simp only [restriction, hname, hvs.1, Value.items?]
      split
      · rename_i hstring
        exact givesOnly_ok (.strings (.here hvs) hname hstring)
      · rename_i hstring
        exact givesOnly_ok (.values (.here hvs) hname hstring)

theorem givesOnly_prop {o : OptionDecl} (ho : o.WellFormed) :
    GivesOnly (prop r g o).result o.Becomes := by
  have htypes : GivesOnly (r.resolved g o.types).result Resolver.Distinct :=
    fun _ h => Resolver.distinct_of_resolve_eq_ok h
  refine Traced.givesOnly_bind htypes fun types hdistinct => ?_
  refine Traced.givesOnly_bind (givesOnly_restriction ho.types) fun limit? hlimit => ?_
  exact givesOnly_ok ⟨rfl, hdistinct, isArrayOnly_iff, hlimit⟩

theorem givesOnly_isPlain (o : OptionDecl) :
    GivesOnly (isPlain o) fun plain => plain = false ↔ o.name = .str reserved := by
  rw [isPlain]
  split
  · refine givesOnly_ok ⟨fun h => ?_, fun h => ?_⟩
    · exact Resolver.eq_str_of_same (by simpa using h)
    · rw [h]
      rfl
  · exact givesOnly_error

theorem givesOnly_props {os : List OptionDecl} (hos : ∀ o ∈ os, o.WellFormed) :
    GivesOnly (props r g os).result (OptionDecl.AllBecome os) := by
  induction os with
  | nil => exact givesOnly_ok .nil
  | cons o os ih =>
    rw [List.forall_mem_cons] at hos
    refine Traced.givesOnly_bind (givesOnly_isPlain o) fun plain hplain => ?_
    cases plain with
    | false => exact fun ps hps => .reserved (hplain.mp rfl) (ih hos.2 ps hps)
    | true =>
      have hname : o.name ≠ .str reserved := fun h => Bool.noConfusion (hplain.mpr h)
      refine Traced.givesOnly_bind (givesOnly_prop hos.1) fun p hp => ?_
      refine Traced.givesOnly_bind (ih hos.2) fun ps hps => ?_
      exact givesOnly_ok (.prop hname hp hps)

theorem givesOnly_children (cs : List ChildRef) :
    GivesOnly (children cs) (ChildRef.AllBecome cs) := by
  cases cs with
  | nil => exact givesOnly_ok ⟨by simp, by simp⟩
  | cons c cs =>
    rw [children]
    split
    · rename_i h
      cases h
    · split
      · exact givesOnly_ok ⟨by simp, fun h =>
          Assoc.ofList_ne_nil (List.cons_ne_nil _ _) (Option.some.inj h)⟩
      · exact givesOnly_error

theorem givesOnly_capitalized (name : Value) :
    GivesOnly (capitalized name) fun v => ∀ s, name = .str s →
      v = .str (String.ofList (Text.capitalFirst s.toList)) := by
  cases name with
  | str s =>
    rw [capitalized]
    split
    · rename_i hempty
      obtain rfl : s = "" := by simpa [Value.isEmpty] using hempty
      exact givesOnly_ok (by rintro _ ⟨⟩; rfl)
    · exact givesOnly_ok (by rintro _ ⟨⟩; rfl)
  | _ => exact fun v _ s hs => by cases hs

theorem givesOnly_nested {d : NestedDecl} (hd : d.WellFormed) :
    GivesOnly (nested r g d).result d.Becomes := by
  refine Traced.givesOnly_bind (givesOnly_capitalized d.name) fun name hname => ?_
  refine Traced.givesOnly_bind (givesOnly_props hd.props) fun props hprops => ?_
  refine Traced.givesOnly_bind (givesOnly_children d.children) fun children hchildren => ?_
  refine givesOnly_ok ⟨fun s hs => ?_, rfl, hprops, hchildren⟩
  rw [hname s hs, Value.display]

theorem givesOnly_nestedAll {ds? : Option (List NestedDecl)}
    (hds : ∀ ds ∈ ds?, ∀ d ∈ ds, d.WellFormed) :
    GivesOnly (nestedAll r g ds?).result (Option.Rel (List.Forall₂ NestedDecl.Becomes) ds?) := by
  cases ds? with
  | none => exact givesOnly_ok .none
  | some ds =>
    have hall := fun d hd => givesOnly_nested (r := r) (g := g) (hds ds rfl d hd)
    exact Traced.givesOnly_bind (Traced.givesOnly_each hall) fun ns hns => givesOnly_ok (.some hns)

theorem givesOnly_widget (places : Places) {w : Widget} (hw : w.WellFormed) :
    GivesOnly (widget r g places w).result fun file => w.Becomes file.component := by
  refine Traced.givesOnly_bind_of_forall fun _ => ?_
  refine Traced.givesOnly_bind (givesOnly_nestedAll hw.nested) fun nested hnested => ?_
  refine Traced.givesOnly_bind (givesOnly_props hw.options) fun props hprops => ?_
  refine Traced.givesOnly_bind (givesOnly_children w.children) fun children hchildren => ?_
  exact givesOnly_ok ⟨hprops, hchildren, hnested⟩

/-- Whatever resolves the types, a component corresponds to the well-formed widget that it comes
from, and with well-formed type definitions there is one. -/
theorem widget_becomes (r : Resolver) (ds : List TypeDecl) (places : Places) {w : Widget}
    (hw : w.WellFormed) :
    (∀ g file, Registry.ofList ds = .ok g → (widget r g places w).result = .ok file →
      w.Becomes file.component) ∧
    ((∀ d ∈ ds, d.WellFormed) →
      ∃ g file, Registry.ofList ds = .ok g ∧ (widget r g places w).result = .ok file) := by
  constructor
  case left => exact fun g file _ hfile => givesOnly_widget places hw file hfile
  case right =>
    intro hds
    obtain ⟨g, hg, hwf⟩ := Registry.gives_ofList hds
    obtain ⟨file, hfile⟩ := succeeds_widget r hwf places hw
    exact ⟨g, file, hg, hfile⟩

/-- A widget with a reserved option, an option limited to two numbers, and a nested declaration
without options. -/
def gallery : Widget where
  name := .str "dxGallery"
  exportPath := .str "ui/gallery"
  options := [⟨.str reserved, []⟩, ⟨.str "columns", [⟨.str "Number", .arr [.int 1, .int 2]⟩]⟩]
  isExtension := .bool false
  isEditor := .bool false
  typeParams := []
  nested := some [⟨.str "item", .str "items", [], .bool true, .null, []⟩]
  children := [⟨.str "DxItem", .str "items", .bool true⟩]
  reexports := []

theorem wellFormed_gallery : gallery.WellFormed where
  name := isText_str _
  options := by
    refine List.forall_mem_cons.mpr ⟨⟨isText_str _, List.forall_mem_nil _⟩, ?_⟩
    refine List.forall_mem_singleton.mpr ⟨isText_str _, List.forall_mem_singleton.mpr ?_⟩
    exact ⟨isText_str _, Or.inr ⟨_, rfl, fun _ _ => trivial⟩⟩
  nested := by
    rintro _ ⟨⟩
    refine List.forall_mem_singleton.mpr ⟨isText_str _, ?_, ?_⟩ <;> exact List.forall_mem_nil _
  children := List.forall_mem_singleton.mpr (isText_str _)

theorem gallery_becomes : ∃ file,
    (widget .standard .empty ⟨.str "./core", .str "./core", .str ".ts"⟩ gallery).result = .ok file ∧
    gallery.Becomes file.component := by
  obtain ⟨hbecomes, hgives⟩ := widget_becomes .standard [] _ wellFormed_gallery
  obtain ⟨g, file, ⟨⟩, hfile⟩ := hgives (List.forall_mem_nil _)
  exact ⟨file, hfile, hbecomes _ file rfl hfile⟩

end Mapping

end VueWrap
