import Mathlib.Logic.Relation
import VueWrap.Mapping
import VueWrap.Proofs.Resolver.Reach

/-! # Which definitions a component depends on

A component shows the last definitions of the names that its options lead to, and
nothing else of the list that the definitions come from. So definitions may be
put in another order, left out where a later one counts, and added where nothing
leads to them or where the table gives their names a meaning.
-/

namespace VueWrap

def Widget.allOptions (w : Widget) : List OptionDecl :=
  w.options ++ (w.nested.getD []).flatMap (·.props)

theorem Traced.each_congr {ε α β : Type} {f f' : α → Traced ε β} {as : List α}
    (h : ∀ a ∈ as, f a = f' a) : Traced.each f as = Traced.each f' as := by
  induction as with
  | nil => rfl
  | cons a as ih =>
    rw [List.forall_mem_cons] at h
    rw [Traced.each, Traced.each, h.1, ih h.2]

namespace Mapping

variable {r : Resolver} {g g' : Registry} {w : Widget} {places : Places}
  {ds ds' before after : List TypeDecl} {name : String}

theorem prop_congr {o : OptionDecl} (h : r.Agree g g' o.types) : prop r g' o = prop r g o := by
  rw [prop, prop, Resolver.resolved_congr h]

theorem props_congr {os : List OptionDecl} (h : ∀ o ∈ os, r.Agree g g' o.types) :
    props r g' os = props r g os := by
  induction os with
  | nil => rfl
  | cons o os ih =>
    rw [List.forall_mem_cons] at h
    rw [props, props, prop_congr h.1, ih h.2]

theorem nested_congr {d : NestedDecl} (h : ∀ o ∈ d.props, r.Agree g g' o.types) :
    nested r g' d = nested r g d := by
  rw [nested, nested, props_congr h]

theorem nestedAll_congr {ds? : Option (List NestedDecl)}
    (h : ∀ o ∈ (ds?.getD []).flatMap (·.props), r.Agree g g' o.types) :
    nestedAll r g' ds? = nestedAll r g ds? := by
  cases ds? with
  | none => rfl
  | some ds =>
    have heach : Traced.each (nested r g') ds = Traced.each (nested r g) ds :=
      Traced.each_congr fun d hd => nested_congr fun o ho =>
        h o (List.mem_flatMap.mpr ⟨d, hd, ho⟩)
    rw [nestedAll, nestedAll, heach]

theorem widget_congr (h : ∀ o ∈ w.allOptions, r.Agree g g' o.types) :
    widget r g' places w = widget r g places w := by
  have hnested := nestedAll_congr fun o ho => h o (List.mem_append_right _ ho)
  have hprops := props_congr fun o ho => h o (List.mem_append_left _ ho)
  rw [widget, widget, hnested, hprops]

/-- The options of a widget lead to a name, through the definitions of a list. -/
def Leads (r : Resolver) (w : Widget) (ds : List TypeDecl) (name : String) : Prop :=
  ∃ o ∈ w.allOptions, ∃ t, r.Reaches (Registry.build ds) o.types t ∧ t.type = .str name

/-- The last definitions of a name stand for types of the same names, or there are none. -/
def SameLast (ds ds' : List TypeDecl) (name : String) : Prop :=
  (Registry.lastNamed ds name).map TypeDecl.typeNames =
    (Registry.lastNamed ds' name).map TypeDecl.typeNames

theorem widget_build_congr
    (h : ∀ name, Leads r w ds name → r.Consults name → SameLast ds ds' name) :
    widget r (Registry.build ds') places w = widget r (Registry.build ds) places w := by
  refine widget_congr fun o ho t name ht hname hconsults => ?_
  rw [Resolver.AgreeOn, Registry.get?_build, Registry.get?_build]
  exact h name ⟨o, ho, t, ht, hname⟩ hconsults

inductive Harmless (r : Resolver) (w : Widget) : List TypeDecl → List TypeDecl → Prop
  /-- Definitions are put in another order, but for those of one name. -/
  | reordered {ds ds' : List TypeDecl}
      (h : ∀ name, ds.filter (Registry.isNamed name) = ds'.filter (Registry.isNamed name)) :
      Harmless r w ds ds'
  /-- A definition that a later one replaces is dropped. -/
  | replaced {before after : List TypeDecl} {d d' : TypeDecl} (hd' : d' ∈ after)
      (hname : d'.name.same d.name = true) : Harmless r w (before ++ d :: after) (before ++ after)
  /-- A definition is added to which nothing leads. -/
  | added {before after : List TypeDecl} {d : TypeDecl}
      (h : ∀ name, d.name = .str name → ¬ Leads r w (before ++ after) name) :
      Harmless r w (before ++ after) (before ++ d :: after)
  /-- A definition is removed to which nothing leads. -/
  | removed {before after : List TypeDecl} {d : TypeDecl}
      (h : ∀ name, d.name = .str name → ¬ Leads r w (before ++ d :: after) name) :
      Harmless r w (before ++ d :: after) (before ++ after)
  /-- A definition is added whose name has a meaning without it. -/
  | shadowed {before after : List TypeDecl} {d : TypeDecl}
      (h : ∀ name, d.name = .str name → ¬ r.Consults name) :
      Harmless r w (before ++ after) (before ++ d :: after)
  /-- The shape of the objects of a definition is changed. -/
  | reshaped {before after : List TypeDecl} (d : TypeDecl) (props : List OptionDecl) :
      Harmless r w (before ++ d :: after) (before ++ { d with props } :: after)

theorem sameLast_insert {d : TypeDecl} (h : d.name ≠ .str name) :
    SameLast (before ++ after) (before ++ d :: after) name := by
  have hname : Registry.isNamed name d ≠ true := mt Registry.isNamed_iff.mp h
  rw [SameLast, Registry.lastNamed_insert, if_neg hname, Option.none_or, Registry.lastNamed_append]

theorem Harmless.sameLast (h : Harmless r w ds ds') (hleads : Leads r w ds name)
    (hconsults : r.Consults name) : SameLast ds ds' name := by
  cases h with
  | reordered h => rw [SameLast, Registry.lastNamed, Registry.lastNamed, h]
  | @replaced before after d d' hd' hname =>
    rw [SameLast, Registry.lastNamed_insert, Registry.lastNamed_append]
    by_cases hd : Registry.isNamed name d = true
    · have hlater : (Registry.lastNamed after name).isSome = true := by
        rw [Registry.isNamed_iff.mp hd] at hname
        exact Registry.isSome_lastNamed hd' hname
      obtain ⟨last, hlast⟩ := Option.isSome_iff_exists.mp hlater
      rw [hlast, Option.some_or, Option.some_or]
    · rw [if_neg hd, Option.none_or]
  | added h => exact sameLast_insert fun hd => h name hd hleads
  | removed h => exact (sameLast_insert fun hd => h name hd hleads).symm
  | shadowed h => exact sameLast_insert fun hd => h name hd hconsults
  | @reshaped before after d props =>
    have hnamed : Registry.isNamed name { d with props } = Registry.isNamed name d := rfl
    rw [SameLast, Registry.lastNamed_insert, Registry.lastNamed_insert, hnamed]
    simp only [Option.map_or]
    split <;> rfl

theorem widget_build_of_harmless (h : Relation.EqvGen (Harmless r w) ds ds') :
    widget r (Registry.build ds') places w = widget r (Registry.build ds) places w := by
  induction h with
  | rel _ _ h => exact widget_build_congr fun _ => h.sameLast
  | refl => rfl
  | symm _ _ _ ih => exact ih.symm
  | trans _ _ _ _ _ ih ih' => exact ih'.trans ih

theorem Leads.mem_of_closed {names : List String}
    (hstart : ∀ o ∈ w.allOptions, ∀ t ∈ o.types, ∃ n ∈ names, t.type = .str n)
    (hclosed : ∀ n ∈ names, ∀ d ∈ Registry.lastNamed ds n, ∀ t ∈ d.types,
      ∃ n' ∈ names, t.type = .str n')
    (h : Leads r w ds name) : name ∈ names := by
  obtain ⟨o, ho, t, ht, hname⟩ := h
  have hmem : ∃ n ∈ names, t.type = .str n := by
    clear hname
    induction ht with
    | here ht => exact hstart o ho _ ht
    | @inside t t' n' inner _ hm ht' ih =>
      obtain ⟨n, hn, htype⟩ := ih
      rw [Resolver.meaning, htype] at hm
      obtain ⟨rfl, d, hd, rfl⟩ := Resolver.get?_of_meaningOf_eq_alias r _ hm
      rw [Registry.get?_build] at hd
      exact hclosed n hn d hd t' ht'
  obtain ⟨n, hn, htype⟩ := hmem
  rw [hname] at htype
  cases htype
  exact hn

/-- Two lists of definitions give a widget the same component, in the same file and with the same
records, if they have the same last definitions of the names that its options lead to. So harmless
changes, one after another and undone again, do not show. -/
theorem widget_eq_of_last_definitions (hg : Registry.ofList ds = .ok g)
    (hg' : Registry.ofList ds' = .ok g') :
    ((∀ name, Leads r w ds name → r.Consults name → SameLast ds ds' name) →
        widget r g' places w = widget r g places w) ∧
      (Relation.EqvGen (Harmless r w) ds ds' → widget r g' places w = widget r g places w) := by
  rw [Registry.eq_build_of_ofList hg, Registry.eq_build_of_ofList hg']
  exact ⟨widget_build_congr, widget_build_of_harmless⟩

def named (names : List String) : List TypeRef := names.map fun name => ⟨.str name, .null⟩

def define (name : String) (types : List String) : TypeDecl := ⟨.str name, named types, []⟩

/-- An option whose types are defined through each other, and one of a nested declaration. -/
def frame : Widget where
  name := .str "dxFrame"
  exportPath := .str ""
  options := [⟨.str "size", named ["Size"]⟩]
  isExtension := .bool false
  isEditor := .bool false
  typeParams := []
  nested := some
    [⟨.str "item", .str "items", [⟨.str "at", named ["Point", "String"]⟩], .null, .null, []⟩]
  children := []
  reexports := []

def sizeDecl : TypeDecl := define "Size" ["Point", "Range"]

def pointDecl : TypeDecl := define "Point" ["Size", "number"]

def lineDecl : TypeDecl := define "Line" ["any"]

def frames : List TypeDecl := [define "Size" ["boolean"], pointDecl, lineDecl, sizeDecl]

def otherFrames : List TypeDecl :=
  [define "String" ["any"], sizeDecl, { pointDecl with props := [⟨.str "x", named ["number"]⟩] }]

theorem mem_of_leads_frame (h : Leads .standard frame frames name) :
    name ∈ ["Size", "Point", "Range", "number", "String"] := by
  refine h.mem_of_closed ?_ ?_
  · simp [Widget.allOptions, frame, named]
  · simp [Registry.lastNamed, frames, sizeDecl, pointDecl, lineDecl, define, named,
      Registry.isNamed, Value.same]

theorem sameLast_frames (hleads : Leads .standard frame frames name)
    (hconsults : Resolver.standard.Consults name) : SameLast frames otherFrames name := by
  have hnumber : ¬ Resolver.standard.Consults "number" := by decide +kernel
  have hstring : ¬ Resolver.standard.Consults "String" := by decide +kernel
  have hmem := mem_of_leads_frame hleads
  simp only [List.mem_cons, List.not_mem_nil, or_false] at hmem
  rcases hmem with rfl | rfl | rfl | rfl | rfl
  case inr.inr.inr.inl => exact absurd hconsults hnumber
  case inr.inr.inr.inr => exact absurd hconsults hstring
  all_goals rfl

theorem harmless_frames : Relation.EqvGen (Harmless .standard frame) frames otherFrames := by
  have hline : Harmless .standard frame frames
      [define "Size" ["boolean"], pointDecl, sizeDecl] := by
    refine @Harmless.removed _ _ [_, _] _ _ fun name hname hleads => ?_
    cases hname
    exact absurd (mem_of_leads_frame hleads) (by decide)
  have hsize : Harmless .standard frame [define "Size" ["boolean"], pointDecl, sizeDecl]
      [pointDecl, sizeDecl] :=
    @Harmless.replaced _ _ [] _ _ _ (List.mem_cons_of_mem _ List.mem_cons_self) rfl
  have hswap : Harmless .standard frame [pointDecl, sizeDecl] [sizeDecl, pointDecl] := by
    refine .reordered fun name => ?_
    by_cases hsize : Registry.isNamed name sizeDecl = true
    · have hpoint : ¬ Registry.isNamed name pointDecl = true := by
        cases Registry.isNamed_iff.mp hsize
        decide
      simp [hsize, hpoint]
    · simp [List.filter_cons, hsize]
  have hstring : Harmless .standard frame [sizeDecl, pointDecl]
      [define "String" ["any"], sizeDecl, pointDecl] := by
    refine @Harmless.shadowed _ _ [] _ _ fun name hname => ?_
    cases hname
    decide +kernel
  have hprops := @Harmless.reshaped .standard frame [define "String" ["any"], sizeDecl] []
    pointDecl [⟨.str "x", named ["number"]⟩]
  exact .trans _ _ _ (.rel _ _ hline) (.trans _ _ _ (.rel _ _ hsize) (.trans _ _ _
    (.rel _ _ hswap) (.trans _ _ _ (.rel _ _ hstring) (.rel _ _ hprops))))

/-- The definitions differ, by all kinds of harmless changes, and the component is the same. -/
theorem widget_frame_eq :
    (∀ name, Leads .standard frame frames name → Resolver.standard.Consults name →
        SameLast frames otherFrames name) ∧
      Relation.EqvGen (Harmless .standard frame) frames otherFrames ∧
      widget .standard (Registry.build otherFrames) ⟨.null, .null, .str ".ts"⟩ frame =
        widget .standard (Registry.build frames) ⟨.null, .null, .str ".ts"⟩ frame := by
  have h := @widget_eq_of_last_definitions .standard (Registry.build frames)
    (Registry.build otherFrames) frame ⟨.null, .null, .str ".ts"⟩ frames otherFrames rfl rfl
  exact ⟨fun _ => sameLast_frames, harmless_frames, h.2 harmless_frames⟩

end Mapping

end VueWrap
