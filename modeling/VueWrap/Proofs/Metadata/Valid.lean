import Mathlib.Tactic.MkIffOfInductiveProp
import VueWrap.Proofs.Metadata.Form
import VueWrap.Source

/-! # Valid documents

A valid document has texts for the names that records are found by and lists, or
nothing, where lists belong. It is narrower than what the reader takes, and the
metadata that is read from it is well formed: all that the later stages look
into is of the kind that they need.
-/

namespace VueWrap

namespace Metadata.Valid

@[mk_iff]
structure TypeRefFields (fs : Fields) : Prop where
  type : Needs fs "type" IsText
  acceptable : May fs "acceptableValues" (NullOrListOf Any)

@[mk_iff]
structure OptionFields (fs : Fields) : Prop where
  name : Needs fs "name" IsText
  types : May fs "types" (NullOrListOf (Object TypeRefFields))

@[mk_iff]
structure ChildFields (fs : Fields) : Prop where
  component : Needs fs "componentName" IsText
  option : Needs fs "optionName" IsText
  isCollectionItem : May fs "isCollectionItem" IsTruth

@[mk_iff]
structure NestedFields (fs : Fields) : Prop where
  name : Needs fs "name" IsText
  option : Needs fs "optionName" IsText
  props : May fs "props" (NullOrListOf (Object OptionFields))
  isCollectionItem : May fs "isCollectionItem" IsTruth
  children : May fs "nesteds" (NullOrListOf (Object ChildFields))

@[mk_iff]
structure TypeFields (fs : Fields) : Prop where
  name : Needs fs "name" IsText
  types : May fs "types" (NullOrListOf (Object TypeRefFields))
  props : May fs "props" (NullOrListOf (Object OptionFields))

@[mk_iff]
structure WidgetFields (fs : Fields) : Prop where
  name : Needs fs "name" IsText
  exportPath : May fs "exportPath" IsText
  options : May fs "options" (NullOrListOf (Object OptionFields))
  isExtension : May fs "isExtension" IsTruth
  isEditor : May fs "isEditor" IsTruth
  typeParams : May fs "optionsTypeParams" (NullOrListOf Any)
  nested : May fs "complexOptions" (NullOrListOf (Object NestedFields))
  children : May fs "nesteds" (NullOrListOf (Object ChildFields))
  reexports : May fs "reexports" (NullOrListOf Any)

/-- The groups of shared exports: every key has a list of texts. -/
def Groups (fs : Fields) : Prop := ∀ f ∈ fs, ListOf IsText f.2

@[mk_iff]
structure DocumentFields (fs : Fields) : Prop where
  widgets : May fs "widgets" (NullOrListOf (Object WidgetFields))
  types : May fs "customTypes" (NullOrListOf (Object TypeFields))
  commonReexports : May fs "commonReexports" fun v => v = .null ∨ Object Groups v

end Metadata.Valid

open Metadata

structure TypeRef.WellFormed (t : TypeRef) : Prop where
  type : IsText t.type
  acceptable : NullOrListOf Any t.acceptable

structure OptionDecl.WellFormed (o : OptionDecl) : Prop where
  name : IsText o.name
  types : ∀ t ∈ o.types, t.WellFormed

structure NestedDecl.WellFormed (d : NestedDecl) : Prop where
  name : IsText d.name
  props : ∀ o ∈ d.props, o.WellFormed
  children : ∀ c ∈ d.children, IsText c.component

structure TypeDecl.WellFormed (d : TypeDecl) : Prop where
  name : IsText d.name
  types : ∀ t ∈ d.types, t.WellFormed

structure Widget.WellFormed (w : Widget) : Prop where
  name : IsText w.name
  options : ∀ o ∈ w.options, o.WellFormed
  nested : ∀ ds ∈ w.nested, ∀ d ∈ ds, d.WellFormed
  children : ∀ c ∈ w.children, IsText c.component

structure Metadata.WellFormed (m : Metadata) : Prop where
  widgets : ∀ w ∈ m.widgets, w.WellFormed
  types : ∀ d ∈ m.types, d.WellFormed
  commonReexports : m.commonReexports = .null ∨ Object Valid.Groups m.commonReexports

/-- Well-formed metadata whose widgets come from paths that are texts. -/
structure Metadata.HasPaths (m : Metadata) : Prop extends m.WellFormed where
  paths : ∀ w ∈ m.widgets, IsText w.exportPath

namespace Metadata

variable {v : Value} {fs : Fields} {key : String} {P : Form} {α : Type}
  {entry : Value → Except Failure α} {Q : α → Prop}

theorem gives_of_object {F : Fields → Prop} {f : Fields → Except Failure α} (h : Object F v)
    (hf : ∀ fs, F fs → Gives (f fs) Q) : Gives (fields v >>= f) Q :=
  (gives_fields_iff.mpr h).bind hf

theorem gives_entries (h : May fs key (NullOrListOf P)) (hentry : ∀ v, P v → Gives (entry v) Q) :
    Gives (entries entry fs key) fun as => ∀ a ∈ as, Q a := by
  have hnone : Gives (.ok [] : Except Failure (List α)) fun as => ∀ a ∈ as, Q a :=
    gives_ok_iff.mpr fun _ ha => absurd ha List.not_mem_nil
  have hv := (may_iff_of_absent (Or.inl rfl)).mp h
  simp only [entries]
  generalize optional fs key .null = v at hv
  rcases hv with rfl | ⟨vs, rfl, hvs⟩
  · exact hnone
  · split
    · exact hnone
    · exact gives_mapM_iff.mpr fun x hx => hentry x (hvs x hx)

theorem succeeds_items (h : May fs key (NullOrListOf P)) : Succeeds (items fs key) := by
  refine succeeds_items_iff.mpr fun v hv => ?_
  rcases h v hv with rfl | ⟨vs, rfl, -⟩
  · exact .falsy Falsy.null
  · exact .list vs

theorem gives_typeRef (h : Object Valid.TypeRefFields v) :
    Gives (typeRef v) TypeRef.WellFormed := by
  refine gives_of_object h fun fs hfs => ?_
  refine (gives_required_iff.mpr hfs.type).bind fun type htype => gives_ok_iff.mpr ?_
  exact ⟨htype, (may_iff_of_absent (Or.inl rfl)).mp hfs.acceptable⟩

theorem gives_optionDecl (h : Object Valid.OptionFields v) :
    Gives (optionDecl v) OptionDecl.WellFormed := by
  refine gives_of_object h fun fs hfs => ?_
  refine (gives_required_iff.mpr hfs.name).bind fun name hname => ?_
  refine (gives_entries hfs.types fun _ => gives_typeRef).bind fun types htypes => ?_
  exact gives_ok_iff.mpr ⟨hname, htypes⟩

theorem gives_childRef (h : Object Valid.ChildFields v) :
    Gives (childRef v) fun c => IsText c.component := by
  refine gives_of_object h fun fs hfs => ?_
  refine (gives_required_iff.mpr hfs.component).bind fun component hcomponent => ?_
  refine (gives_required_iff.mpr hfs.option).bind fun option _ => ?_
  exact gives_ok_iff.mpr hcomponent

theorem gives_nestedDecl (h : Object Valid.NestedFields v) :
    Gives (nestedDecl v) NestedDecl.WellFormed := by
  refine gives_of_object h fun fs hfs => ?_
  refine (gives_required_iff.mpr hfs.name).bind fun name hname => ?_
  refine (gives_required_iff.mpr hfs.option).bind fun option _ => ?_
  refine (gives_entries hfs.props fun _ => gives_optionDecl).bind fun props hprops => ?_
  refine (gives_entries hfs.children fun _ => gives_childRef).bind fun children hchildren => ?_
  exact gives_ok_iff.mpr ⟨hname, hprops, hchildren⟩

theorem gives_typeDecl (h : Object Valid.TypeFields v) :
    Gives (typeDecl v) TypeDecl.WellFormed := by
  refine gives_of_object h fun fs hfs => ?_
  refine (gives_required_iff.mpr hfs.name).bind fun name hname => ?_
  refine (gives_entries hfs.types fun _ => gives_typeRef).bind fun types htypes => ?_
  refine (gives_entries hfs.props fun _ => gives_optionDecl).bind fun props _ => ?_
  exact gives_ok_iff.mpr ⟨hname, htypes⟩

theorem gives_nestedDecls (h : May fs "complexOptions" (NullOrListOf (Object Valid.NestedFields))) :
    Gives (nestedDecls fs) fun nested => ∀ ds ∈ nested, ∀ d ∈ ds, d.WellFormed := by
  have hv := (may_iff_of_absent (Or.inl rfl)).mp h
  rw [nestedDecls]
  generalize optional fs "complexOptions" .null = v at hv
  rcases hv with rfl | ⟨vs, rfl, hvs⟩
  · exact gives_ok_iff.mpr fun _ h => by cases h
  · refine gives_map_iff.mpr ?_
    refine (gives_mapM_iff.mpr fun x hx => gives_nestedDecl (hvs x hx)).imp fun ds hds => ?_
    rintro _ ⟨rfl⟩
    exact hds

theorem gives_widget (h : Object Valid.WidgetFields v) :
    Gives (widget v) fun w => w.WellFormed ∧ IsText w.exportPath := by
  refine gives_of_object h fun fs hfs => ?_
  refine (gives_required_iff.mpr hfs.name).bind fun name hname => ?_
  refine (gives_entries hfs.options fun _ => gives_optionDecl).bind fun options hoptions => ?_
  refine (succeeds_items hfs.typeParams).gives.bind fun typeParams _ => ?_
  refine (gives_nestedDecls hfs.nested).bind fun nested hnested => ?_
  refine (gives_entries hfs.children fun _ => gives_childRef).bind fun children hchildren => ?_
  refine (succeeds_items hfs.reexports).gives.bind fun reexports _ => gives_ok_iff.mpr ?_
  exact ⟨⟨hname, hoptions, hnested, hchildren⟩,
    (may_iff_of_absent (isText_str _)).mp hfs.exportPath⟩

/-- Valid documents hold well-formed metadata. -/
theorem gives_read (h : Object Valid.DocumentFields v) : Gives (read v) Metadata.HasPaths := by
  refine gives_of_object h fun fs hfs => ?_
  refine (gives_entries hfs.widgets fun _ => gives_widget).bind fun widgets hwidgets => ?_
  refine (gives_entries hfs.types fun _ => gives_typeDecl).bind fun types htypes => ?_
  have hshared := (may_iff_of_absent (Or.inl rfl)).mp hfs.commonReexports
  exact gives_ok_iff.mpr
    ⟨⟨fun w hw => (hwidgets w hw).1, htypes, hshared⟩, fun w hw => (hwidgets w hw).2⟩

end Metadata

theorem Source.gives_build {document : Value} (h : Object Valid.DocumentFields document)
    (source : String) : Gives (build document source) Metadata.HasPaths := by
  obtain ⟨m, hm, hwf⟩ := gives_read h
  obtain ⟨fs, rfl, -⟩ := h
  refine ⟨m, ?_, hwf⟩
  rw [build, hm]
  rfl

end VueWrap
