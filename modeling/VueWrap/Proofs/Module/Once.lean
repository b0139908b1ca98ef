import Mathlib.Data.List.Nodup
import VueWrap.Proofs.Mapping.Parts
import VueWrap.Proofs.Module.Outline
import VueWrap.Proofs.Module.Renders

/-! # What a module names once

A module exports exactly the constants that it declares, and no props literal of
it repeats a key. Its constants may share a name, as names of nested components
are capitalised and names of widgets lose their mark; and an emits literal
repeats a key where an option is named like the state that all components share.
-/

namespace VueWrap.Module

variable {t : Target} {c : Component} {items : List Item} {ps : List PropDecl}

theorem mapM_eq_some_cons {α β : Type} {f : α → Option β} {a : α} {as : List α} {bs : List β}
    (h : (a :: as).mapM f = some bs) :
    ∃ b bs', f a = some b ∧ as.mapM f = some bs' ∧ bs = b :: bs' := by
  rw [List.mapM_cons] at h
  obtain ⟨b, hb, h⟩ := Option.bind_eq_some_iff.mp h
  obtain ⟨bs', hbs', h⟩ := Option.bind_eq_some_iff.mp h
  exact ⟨b, bs', hb, hbs', (Option.some.inj h).symm⟩

theorem filterMap_flatten_of_mapM {α β : Type} {f : α → Option (List Item)} {k : Item → Option β}
    {ks : α → List β} (hk : ∀ a ps, f a = some ps → ps.filterMap k = ks a) {as : List α}
    {pss : List (List Item)} (h : as.mapM f = some pss) :
    pss.flatten.filterMap k = as.flatMap ks := by
  induction as generalizing pss with
  | nil =>
    cases h
    rfl
  | cons a as ih =>
    obtain ⟨ps, pss', ha, has, rfl⟩ := mapM_eq_some_cons h
    rw [List.flatten_cons, List.filterMap_append, hk a ps ha, ih has, List.flatMap_cons]

theorem exists_propsItem_eq {p : Item} (h : propsItem ps = some p) :
    ∃ fields, p = .props fields ∧ fields.map (·.1) = ps.map (·.name.display) := by
  obtain ⟨fields, hfields, rfl⟩ := Option.map_eq_some_iff.mp h
  refine ⟨fields, rfl, ?_⟩
  clear h
  induction ps generalizing fields with
  | nil =>
    cases hfields
    rfl
  | cons p ps ih =>
    obtain ⟨f, fs, hf, hfs, rfl⟩ := mapM_eq_some_cons hfields
    obtain ⟨types, -, rfl⟩ := Option.map_eq_some_iff.mp hf
    rw [List.map_cons, List.map_cons, ih fs hfs]

/-- The names that the items of a module for the newer version give. -/
structure Names (c : Component) (items : List Item) : Prop where
  constants : items.filterMap Item.constant? = c.name :: (c.nested.getD []).map (·.name)
  exports : items.filterMap Item.exports? = [c.name :: (c.nested.getD []).map (·.name)]
  props : items.filterMap Item.propKeys? =
    c.props.map (·.name.display) :: (c.nested.getD []).map fun n => n.props.map (·.name.display)
  emits : items.filterMap Item.emitKeys? =
    events c.props c.hasModel :: (c.nested.getD []).map fun n => events n.props false

theorem names_of_outline (ht : t.version = .three) (h : outline t c = some items) :
    Names c items := by
  obtain ⟨p, hp, h⟩ := Option.bind_eq_some_iff.mp h
  obtain ⟨pss, hpss, h⟩ := Option.bind_eq_some_iff.mp h
  obtain ⟨fields, rfl, hfields⟩ := exists_propsItem_eq hp
  obtain rfl := Option.some.inj h
  rw [ht] at hpss ⊢
  -- Code gives no names, so those of the component come first, and those nested in it follow.
  have hitems {β : Type} (k : Item → Option β) (ks : Nested → List β)
      (hcode : ∀ cs, k (.code cs) = none)
      (hk : ∀ n fields, fields.map (·.1) = n.props.map (·.name.display) →
        (nestedItems .three c.config.name n (.props fields)).filterMap k = ks n) (cs cs' : List Char) :
      (Item.code cs :: definitionItems .three c (.props fields) ++ pss.flatten ++
          closingItems c (c.nested.getD []) ++ [Item.code cs']).filterMap k =
        (definitionItems .three c (.props fields)).filterMap k ++
          (c.nested.getD []).flatMap ks ++ (closingItems c (c.nested.getD [])).filterMap k := by
    have hnested : pss.flatten.filterMap k = (c.nested.getD []).flatMap ks := by
      refine filterMap_flatten_of_mapM (fun n ps hn => ?_) hpss
      obtain ⟨p, hp, rfl⟩ := Option.map_eq_some_iff.mp hn
      obtain ⟨fields, rfl, hfields⟩ := exists_propsItem_eq hp
      exact hk n fields hfields
    simp only [List.cons_append, List.filterMap_append, List.filterMap_cons, hcode, hnested,
      List.filterMap_nil, List.append_nil]
  constructor
  case constants =>
    rw [hitems Item.constant? (fun n => [n.name]) (fun _ => rfl) fun _ _ _ => rfl,
      ← List.map_eq_flatMap]
    exact List.append_nil _
  case exports =>
    have hnone : (c.nested.getD []).flatMap (fun _ => ([] : List (List String))) = [] :=
      List.flatMap_eq_nil_iff.mpr fun _ _ => rfl
    rw [hitems Item.exports? (fun _ => []) (fun _ => rfl) fun _ _ _ => rfl, hnone]
    rfl
  case props =>
    rw [hitems Item.propKeys? (fun n => [n.props.map (·.name.display)]) (fun _ => rfl)
      fun n fields hn => hn ▸ rfl, ← List.map_eq_flatMap, ← hfields]
    exact List.append_nil _
  case emits =>
    rw [hitems Item.emitKeys? (fun n => [events n.props false]) (fun _ => rfl) fun _ _ _ => rfl,
      ← List.map_eq_flatMap]
    exact List.append_nil _

theorem events_eq (ps : List PropDecl) (hasModel : Bool) :
    events ps hasModel = (sharedState ++ ps.map (·.name.display) ++
      if hasModel then ["modelValue"] else []).map updateOf := by
  cases hasModel <;> simp [events, List.map_map, Function.comp_def]

theorem updateOf_injective : Function.Injective updateOf := by
  intro s s' h
  simpa [updateOf] using h

/-- The names that a component's events have besides those of its props. -/
def stateNames (hasModel : Bool) : List String :=
  sharedState ++ if hasModel then ["modelValue"] else []

theorem nodup_stateNames (hasModel : Bool) : (stateNames hasModel).Nodup := by
  cases hasModel <;> decide

/-- Where props have distinct names, only the names of the shared state can make two events one. -/
theorem nodup_events_iff {hasModel : Bool} (h : (ps.map (·.name.display)).Nodup) :
    (events ps hasModel).Nodup ↔ ∀ p ∈ ps, p.name.display ∉ stateNames hasModel := by
  have hperm : (sharedState ++ ps.map (·.name.display) ++
      if hasModel then ["modelValue"] else []).Perm
        (stateNames hasModel ++ ps.map (·.name.display)) := by
    rw [stateNames, List.append_assoc, List.append_assoc]
    exact List.perm_append_comm.append_left _
  rw [events_eq, List.nodup_map_iff updateOf_injective, hperm.nodup_iff, List.nodup_append]
  constructor
  · rintro ⟨-, -, hdisjoint⟩ p hp hmem
    exact hdisjoint _ hmem _ (List.mem_map_of_mem hp) rfl
  · intro hnot
    refine ⟨nodup_stateNames hasModel, h, ?_⟩
    rintro s hs _ hmem rfl
    obtain ⟨p, hp, rfl⟩ := List.mem_map.mp hmem
    exact hnot p hp hs

/-- An option has a name that the events of its component have besides those of props. -/
def Clashes (os : List OptionDecl) (hasModel : Bool) : Prop :=
  ∃ s ∈ stateNames hasModel, .str s ∈ os.map (·.name)

section Options

variable {os : List OptionDecl} (hps : OptionDecl.AllBecome os ps)
include hps

theorem sublist_names : (ps.map (·.name)).Sublist (os.map (·.name)) := by
  induction hps with
  | nil => exact List.Sublist.refl _
  | reserved _ _ ih => exact ih.cons _
  | prop _ hp _ ih =>
    rw [List.map_cons, List.map_cons, hp.name]
    exact ih.cons_cons _

theorem mem_names_iff {name : Value} (hname : name ≠ .str Mapping.reserved) :
    name ∈ ps.map (·.name) ↔ name ∈ os.map (·.name) := by
  induction hps with
  | nil => exact Iff.rfl
  | reserved h _ ih =>
    rw [ih, List.map_cons, List.mem_cons, h, or_iff_right hname]
  | prop _ hp _ ih =>
    rw [List.map_cons, List.mem_cons, ih, hp.name, List.map_cons, List.mem_cons]

variable (hos : ∀ o ∈ os, o.WellFormed)
include hos

theorem exists_name_eq {p : PropDecl} (hp : p ∈ ps) : ∃ s, p.name = .str s := by
  obtain ⟨o, ho, hname⟩ := List.mem_map.mp ((sublist_names hps).subset (List.mem_map_of_mem hp))
  exact hname ▸ (hos o ho).name.exists_eq

theorem nodup_displayed (hdistinct : (os.map (·.name)).Nodup) :
    (ps.map (·.name.display)).Nodup := by
  have hnames : (ps.map (·.name)).Nodup := hdistinct.sublist (sublist_names hps)
  have hdisplayed : ((ps.map (·.name)).map Value.display).Nodup := by
    refine List.Nodup.map_on (fun v hv v' hv' h => ?_) hnames
    obtain ⟨p, hp, rfl⟩ := List.mem_map.mp hv
    obtain ⟨p', hp', rfl⟩ := List.mem_map.mp hv'
    obtain ⟨s, hs⟩ := exists_name_eq hps hos hp
    obtain ⟨s', hs'⟩ := exists_name_eq hps hos hp'
    rw [hs, hs', Value.display, Value.display] at h
    rw [hs, hs', h]
  rw [List.map_map] at hdisplayed
  exact hdisplayed

theorem nodup_events_iff_not_clashes (hdistinct : (os.map (·.name)).Nodup) (hasModel : Bool) :
    (events ps hasModel).Nodup ↔ ¬ Clashes os hasModel := by
  rw [nodup_events_iff (nodup_displayed hps hos hdistinct)]
  constructor
  · rintro hnot ⟨s, hs, hmem⟩
    have hreserved : Mapping.reserved ∉ stateNames hasModel := by cases hasModel <;> decide
    have hname : Value.str s ≠ .str Mapping.reserved := by
      rintro ⟨⟩
      exact hreserved hs
    obtain ⟨p, hp, hpname⟩ := List.mem_map.mp ((mem_names_iff hps hname).mpr hmem)
    exact hnot p hp (by rwa [hpname])
  · intro hnot p hp hs
    obtain ⟨s, hname⟩ := exists_name_eq hps hos hp
    rw [hname] at hs
    refine hnot ⟨s, hs, (sublist_names hps).subset ?_⟩
    exact hname ▸ List.mem_map_of_mem hp

end Options

/-- Options have distinct names, and so have those of every nested declaration. -/
structure DistinctOptions (w : Widget) : Prop where
  options : (w.options.map (·.name)).Nodup
  nested : ∀ ds ∈ w.nested, ∀ d ∈ ds, (d.props.map (·.name)).Nodup

/-- The names of a module's constants, without the mark that all of them begin with. -/
def constantNames (w : Widget) : List String :=
  Naming.withoutMark Metadata.mark w.name.display ::
    (w.nested.getD []).map fun d => String.ofList (Text.capitalFirst d.name.display.toList)

/-- The options behind every emits literal, and whether it has an event for a model. -/
def levels (w : Widget) : List (List OptionDecl × Bool) :=
  (w.options, w.isEditor.holds) :: (w.nested.getD []).map fun d => (d.props, false)

/-- What is named once in the items of a widget's module, and what may be named more often. -/
structure NamesOnce (w : Widget) (items : List Item) : Prop where
  exports : items.filterMap Item.exports? = [items.filterMap Item.constant?]
  constants : (items.filterMap Item.constant?).Nodup ↔ (constantNames w).Nodup
  props : ∀ keys ∈ items.filterMap Item.propKeys?, keys.Nodup
  emits : List.Forall₂ (fun keys level => keys.Nodup ↔ ¬ Clashes level.1 level.2)
    (items.filterMap Item.emitKeys?) (levels w)

theorem forall_mem_getD {α : Type} {P : α → Prop} {as? : Option (List α)}
    (h : ∀ as ∈ as?, ∀ a ∈ as, P a) : ∀ a ∈ as?.getD [], P a := by
  cases as? with
  | none => exact List.forall_mem_nil _
  | some as => exact h as rfl

theorem exists_of_mem_right {α β : Type} {R : α → β → Prop} {as : List α} {bs : List β} {b : β}
    (h : List.Forall₂ R as bs) (hb : b ∈ bs) : ∃ a, R a b := by
  induction h with
  | nil => cases hb
  | cons hab _ ih =>
    rcases List.mem_cons.mp hb with rfl | hb
    · exact ⟨_, hab⟩
    · exact ih hb

theorem mark_append_injective : Function.Injective (Mapping.mark ++ ·) := by
  intro s s' h
  simpa using h

section Widget

variable {w : Widget} (hw : w.WellFormed) (hc : w.Becomes c)
include hw hc

theorem forall₂_nested : List.Forall₂ (fun d n => d.WellFormed ∧ d.Becomes n)
    (w.nested.getD []) (c.nested.getD []) := by
  refine (List.forall₂_and_left _ _).mpr ⟨forall_mem_getD hw.nested, ?_⟩
  have hnested := hc.nested
  generalize w.nested = ds? at hnested
  generalize c.nested = ns? at hnested
  cases hnested with
  | none => exact .nil
  | some h => exact h

theorem names_eq_map_constantNames {name : String} (hname : Mapping.widgetName w.name = .ok name)
    (hcname : c.name = Mapping.mark ++ name) :
    c.name :: (c.nested.getD []).map (·.name) = (constantNames w).map (Mapping.mark ++ ·) := by
  have hhead : name = Naming.withoutMark Metadata.mark w.name.display := by
    obtain ⟨s, hs⟩ := hw.name.exists_eq
    rw [hs] at hname ⊢
    exact (Except.ok.inj hname).symm
  rw [constantNames, List.map_cons, ← hhead, hcname, List.map_map]
  refine congrArg _ ?_
  have hnested := forall₂_nested hw hc
  generalize w.nested.getD [] = ds at hnested
  generalize c.nested.getD [] = ns at hnested
  induction hnested with
  | nil => rfl
  | cons hd _ ih =>
    obtain ⟨s, hs⟩ := hd.1.name.exists_eq
    rw [List.map_cons, List.map_cons, ih, hd.2.name s hs, Function.comp_apply, hs]
    rfl

end Widget

theorem namesOnce_of_names {w : Widget} {items : List Item} (hw : w.WellFormed)
    (hdistinct : DistinctOptions w) (hc : w.Becomes c) (hmodel : c.hasModel = w.isEditor.holds)
    {name : String} (hname : Mapping.widgetName w.name = .ok name)
    (hcname : c.name = Mapping.mark ++ name) (h : Names c items) : NamesOnce w items := by
  have hnested : List.Forall₂
      (fun d n => (n.props.map (·.name.display)).Nodup ∧
        ((events n.props false).Nodup ↔ ¬ Clashes d.props false))
      (w.nested.getD []) (c.nested.getD []) := by
    have hboth := (List.forall₂_and_left _ _).mpr
      ⟨forall_mem_getD hdistinct.nested, forall₂_nested hw hc⟩
    refine hboth.imp fun d n hd => ⟨?_, ?_⟩
    · exact nodup_displayed hd.2.2.props hd.2.1.props hd.1
    · exact nodup_events_iff_not_clashes hd.2.2.props hd.2.1.props hd.1 false
  constructor
  case exports => rw [h.exports, h.constants]
  case constants =>
    rw [h.constants, names_eq_map_constantNames hw hc hname hcname,
      List.nodup_map_iff mark_append_injective]
  case props =>
    rw [h.props]
    refine List.forall_mem_cons.mpr ⟨nodup_displayed hc.props hw.options hdistinct.options, ?_⟩
    refine List.forall_mem_map.mpr fun n hn => ?_
    obtain ⟨d, hd⟩ := exists_of_mem_right hnested hn
    exact hd.1
  case emits =>
    rw [h.emits, levels, ← hmodel]
    refine .cons (nodup_events_iff_not_clashes hc.props hw.options hdistinct.options _) ?_
    rw [List.forall₂_map_left_iff, List.forall₂_map_right_iff]
    exact hnested.flip.imp fun n d hd => hd.2

variable {r : Resolver} {g : Registry} {w : Widget}

theorem exists_outline (hr : r.Textual) (hg : g.WellFormed) (hw : w.WellFormed)
    (places : Mapping.Places) (t : Target) :
    ∃ file items, (Mapping.widget r g places w).result = .ok file ∧
      outline t file.component = some items ∧ component t file.component = some (textOf items) := by
  obtain ⟨file, hfile, htextual⟩ := Mapping.gives_widget hr hg places hw
  have hsome := isSome_component t htextual
  rw [component_eq, Option.isSome_map] at hsome
  obtain ⟨items, hitems⟩ := Option.isSome_iff_exists.mp hsome
  exact ⟨file, items, hfile, hitems, by rw [component_eq, hitems, Option.map_some]⟩

theorem namesOnce_of_outline {places : Mapping.Places} {file : ComponentFile} {items : List Item}
    (hw : w.WellFormed) (hdistinct : DistinctOptions w)
    (hfile : (Mapping.widget r g places w).result = .ok file) (ht : t.version = .three)
    (h : outline t file.component = some items) : NamesOnce w items := by
  have hc := Mapping.givesOnly_widget places hw file hfile
  obtain ⟨name, hof⟩ := Mapping.givesOnly_widget_isFileOf places w file hfile
  exact namesOnce_of_names hw hdistinct hc hof.hasModel hof.widgetName hof.componentName
    (names_of_outline ht h)

/-- The module of a well-formed widget with distinct options, in the version that has events. Its
list of exports has exactly its constants, and no props literal has a key twice. The constants are
distinct iff their names are, once changed as names of constants are; and an emits literal has no
key twice iff no option behind it is named like the shared state or the value of a model. -/
theorem exists_outline_namesOnce (hr : r.Textual) (hg : g.WellFormed) (hw : w.WellFormed)
    (hdistinct : DistinctOptions w) (places : Mapping.Places) (package : Value)
    (reexports : Bool) :
    ∃ file items, (Mapping.widget r g places w).result = .ok file ∧
      outline ⟨package, .three, reexports⟩ file.component = some items ∧
      component ⟨package, .three, reexports⟩ file.component = some (textOf items) ∧
      NamesOnce w items := by
  obtain ⟨file, items, hfile, hitems, htext⟩ :=
    exists_outline hr hg hw places ⟨package, .three, reexports⟩
  exact ⟨file, items, hfile, hitems, htext, namesOnce_of_outline hw hdistinct hfile rfl hitems⟩

theorem forall_mem_iff_of_forall₂ {α β : Type} {P : α → Prop} {Q : β → Prop} {as : List α}
    {bs : List β} (h : List.Forall₂ (fun a b => P a ↔ Q b) as bs) :
    (∀ a ∈ as, P a) ↔ ∀ b ∈ bs, Q b := by
  induction h with
  | nil => simp
  | cons hab _ ih => rw [List.forall_mem_cons, List.forall_mem_cons, hab, ih]

theorem NamesOnce.nodup_emits_iff {items : List Item} (h : NamesOnce w items) :
    (∀ keys ∈ items.filterMap Item.emitKeys?, keys.Nodup) ↔
      ∀ level ∈ levels w, ¬ Clashes level.1 level.2 :=
  forall_mem_iff_of_forall₂ h.emits

def plainOptions (names : List String) : List OptionDecl := names.map fun name => ⟨.str name, []⟩

def plainNested (name : String) (options : List String) : NestedDecl :=
  ⟨.str name, .str name, plainOptions options, .null, .null, []⟩

def plainEditor (name : String) (options : List String) (nested : List NestedDecl) : Widget where
  name := .str name
  exportPath := .str ""
  options := plainOptions options
  isExtension := .bool false
  isEditor := .bool true
  typeParams := []
  nested := some nested
  children := []
  reexports := []

theorem wellFormed_plainOptions (names : List String) :
    ∀ o ∈ plainOptions names, o.WellFormed := by
  intro o ho
  obtain ⟨name, -, rfl⟩ := List.mem_map.mp ho
  exact ⟨Metadata.isText_str name, List.forall_mem_nil _⟩

theorem wellFormed_plainNested (name : String) (options : List String) :
    (plainNested name options).WellFormed :=
  ⟨Metadata.isText_str name, wellFormed_plainOptions options, List.forall_mem_nil _⟩

theorem wellFormed_plainEditor (name : String) (options : List String) {nested : List NestedDecl}
    (h : ∀ d ∈ nested, d.WellFormed) : (plainEditor name options nested).WellFormed where
  name := Metadata.isText_str name
  options := wellFormed_plainOptions options
  nested := by
    rintro _ ⟨rfl⟩
    exact h
  children := List.forall_mem_nil _

theorem nodup_plainOptions {names : List String} (h : names.Nodup) :
    ((plainOptions names).map (·.name)).Nodup := by
  have hinjective : Function.Injective Value.str := fun _ _ => Value.str.inj
  rw [plainOptions, List.map_map]
  exact h.map hinjective

theorem wellFormed_empty : Registry.empty.WellFormed := fun _ he => absurd he List.not_mem_nil

/-- An editor whose module names everything once. -/
def tabs : Widget :=
  plainEditor "dxTabs" ["key", "value"] [plainNested "item" ["text"], plainNested "tab" ["text"]]

/-- An editor with distinct names at every level, and a module that names things twice. -/
def board : Widget :=
  plainEditor "dxBoard" ["isActive", "modelValue"]
    [plainNested "item" ["text"], plainNested "Item" ["hoveredElement"]]

theorem wellFormed_tabs : tabs.WellFormed :=
  wellFormed_plainEditor _ _ (by simp [wellFormed_plainNested])

theorem distinctOptions_tabs : DistinctOptions tabs where
  options := nodup_plainOptions (by decide)
  nested := by
    rintro _ ⟨rfl⟩ d hd
    simp only [List.mem_cons, List.not_mem_nil, or_false] at hd
    rcases hd with rfl | rfl <;> exact nodup_plainOptions (by decide)

theorem wellFormed_board : board.WellFormed :=
  wellFormed_plainEditor _ _ (by simp [wellFormed_plainNested])

theorem distinctOptions_board : DistinctOptions board where
  options := nodup_plainOptions (by decide)
  nested := by
    rintro _ ⟨rfl⟩ d hd
    simp only [List.mem_cons, List.not_mem_nil, or_false] at hd
    rcases hd with rfl | rfl <;> exact nodup_plainOptions (by decide)

theorem exists_outline_tabs : ∃ file items,
    (Mapping.widget .standard .empty ⟨.null, .null, .null⟩ tabs).result = .ok file ∧
      outline ⟨.str "devextreme", .three, true⟩ file.component = some items ∧
      component ⟨.str "devextreme", .three, true⟩ file.component = some (textOf items) ∧
      (items.filterMap Item.constant?).Nodup ∧
      ∀ keys ∈ items.filterMap Item.emitKeys?, keys.Nodup := by
  obtain ⟨file, items, hfile, hitems, htext, hnames⟩ :=
    exists_outline_namesOnce Resolver.textual_standard wellFormed_empty wellFormed_tabs
      distinctOptions_tabs ⟨.null, .null, .null⟩ (.str "devextreme") true
  refine ⟨file, items, hfile, hitems, htext, hnames.constants.mpr (by decide +kernel), ?_⟩
  rw [hnames.nodup_emits_iff]
  simp [levels, tabs, plainEditor, plainNested, plainOptions, Clashes, stateNames, sharedState]

/-- Distinct options and distinct nested declarations do not keep a module from declaring and
exporting a constant twice, nor from repeating a key in an emits literal. -/
theorem exists_outline_board_not_nodup :
    (board.WellFormed ∧ DistinctOptions board ∧
      ∀ ds ∈ board.nested, (ds.map (·.name)).Nodup) ∧
    ∃ file items,
      (Mapping.widget .standard .empty ⟨.null, .null, .null⟩ board).result = .ok file ∧
      outline ⟨.str "devextreme", .three, true⟩ file.component = some items ∧
      component ⟨.str "devextreme", .three, true⟩ file.component = some (textOf items) ∧
      ¬ (items.filterMap Item.constant?).Nodup ∧
      (∃ names ∈ items.filterMap Item.exports?, ¬ names.Nodup) ∧
      ¬ ∀ keys ∈ items.filterMap Item.emitKeys?, keys.Nodup := by
  refine ⟨⟨wellFormed_board, distinctOptions_board, ?_⟩, ?_⟩
  · rintro _ ⟨rfl⟩
    simp [plainNested]
  · obtain ⟨file, items, hfile, hitems, htext⟩ := exists_outline Resolver.textual_standard
      wellFormed_empty wellFormed_board ⟨.null, .null, .null⟩ ⟨.str "devextreme", .three, true⟩
    have hnames := namesOnce_of_outline wellFormed_board distinctOptions_board hfile rfl hitems
    have hconstants : ¬ (items.filterMap Item.constant?).Nodup := by
      rw [hnames.constants]
      decide +kernel
    refine ⟨file, items, hfile, hitems, htext, hconstants, ⟨_, ?_, hconstants⟩, ?_⟩
    · rw [hnames.exports]
      exact List.mem_singleton_self _
    · rw [hnames.nodup_emits_iff]
      simp [levels, board, plainEditor, plainNested, plainOptions, Clashes, stateNames,
        sharedState]

end VueWrap.Module
