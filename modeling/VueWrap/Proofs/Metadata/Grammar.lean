import Mathlib.Tactic.MkIffOfInductiveProp
import VueWrap.Proofs.Metadata.Form
import VueWrap.Source

/-! # The documents that are read

The reader of metadata takes the documents of one grammar and no others. The
grammar asks for the keys that records are found by, and takes any falsy value
for a list without entries.
-/

namespace VueWrap.Metadata

namespace Grammar

@[mk_iff]
structure TypeRefFields (fs : Fields) : Prop where
  type : Needs fs "type" Any

@[mk_iff]
structure OptionFields (fs : Fields) : Prop where
  name : Needs fs "name" Any
  types : May fs "types" (FalsyOrListOf (Object TypeRefFields))

@[mk_iff]
structure ChildFields (fs : Fields) : Prop where
  component : Needs fs "componentName" Any
  option : Needs fs "optionName" Any

@[mk_iff]
structure NestedFields (fs : Fields) : Prop where
  name : Needs fs "name" Any
  option : Needs fs "optionName" Any
  props : May fs "props" (FalsyOrListOf (Object OptionFields))
  children : May fs "nesteds" (FalsyOrListOf (Object ChildFields))

@[mk_iff]
structure TypeFields (fs : Fields) : Prop where
  name : Needs fs "name" Any
  types : May fs "types" (FalsyOrListOf (Object TypeRefFields))
  props : May fs "props" (FalsyOrListOf (Object OptionFields))

/-- The nested components of a widget. Other than for lists of other entries, false and zero are no
list without entries here. -/
inductive NestedList : Form
  | null : NestedList .null
  | text : NestedList (.str "")
  | object : NestedList (.obj [])
  | list {v : Value} (h : ListOf (Object NestedFields) v) : NestedList v

@[mk_iff]
structure WidgetFields (fs : Fields) : Prop where
  name : Needs fs "name" Any
  options : May fs "options" (FalsyOrListOf (Object OptionFields))
  typeParams : May fs "optionsTypeParams" FalsyOrIterable
  nested : May fs "complexOptions" NestedList
  children : May fs "nesteds" (FalsyOrListOf (Object ChildFields))
  reexports : May fs "reexports" FalsyOrIterable

@[mk_iff]
structure DocumentFields (fs : Fields) : Prop where
  widgets : May fs "widgets" (FalsyOrListOf (Object WidgetFields))
  types : May fs "customTypes" (FalsyOrListOf (Object TypeFields))

end Grammar

open Grammar

variable {v : Value}

theorem succeeds_typeRef_iff : Succeeds (typeRef v) ↔ Object TypeRefFields v := by
  rw [typeRef, succeeds_fields_bind_iff]
  refine object_congr fun fs => ?_
  simp only [succeeds_bind_iff, succeeds_required_iff, succeeds_pure, gives_const_iff, and_true,
    typeRefFields_iff]

theorem succeeds_optionDecl_iff : Succeeds (optionDecl v) ↔ Object OptionFields v := by
  rw [optionDecl, succeeds_fields_bind_iff]
  refine object_congr fun fs => ?_
  simp only [succeeds_bind_iff, succeeds_required_iff, succeeds_entries_iff, succeeds_pure,
    gives_const_iff, and_true, succeeds_typeRef_iff, optionFields_iff]

theorem succeeds_childRef_iff : Succeeds (childRef v) ↔ Object ChildFields v := by
  rw [childRef, succeeds_fields_bind_iff]
  refine object_congr fun fs => ?_
  simp only [succeeds_bind_iff, succeeds_required_iff, succeeds_pure, gives_const_iff, and_true,
    childFields_iff]

theorem succeeds_nestedDecl_iff : Succeeds (nestedDecl v) ↔ Object NestedFields v := by
  rw [nestedDecl, succeeds_fields_bind_iff]
  refine object_congr fun fs => ?_
  simp only [succeeds_bind_iff, succeeds_required_iff, succeeds_entries_iff, succeeds_pure,
    gives_const_iff, and_true, succeeds_optionDecl_iff, succeeds_childRef_iff, nestedFields_iff]

theorem succeeds_typeDecl_iff : Succeeds (typeDecl v) ↔ Object TypeFields v := by
  rw [typeDecl, succeeds_fields_bind_iff]
  refine object_congr fun fs => ?_
  simp only [succeeds_bind_iff, succeeds_required_iff, succeeds_entries_iff, succeeds_pure,
    gives_const_iff, and_true, succeeds_typeRef_iff, succeeds_optionDecl_iff, typeFields_iff]

theorem succeeds_nestedDecls_iff {fs : Fields} :
    Succeeds (nestedDecls fs) ↔ May fs "complexOptions" NestedList := by
  rw [may_iff_of_absent NestedList.null, nestedDecls]
  generalize optional fs "complexOptions" .null = v
  split
  · exact ⟨fun _ => NestedList.null, fun _ => succeeds_ok⟩
  · rename_i hnull
    rw [succeeds_map_iff, succeeds_listed_iff]
    simp only [succeeds_nestedDecl_iff]
    constructor
    · rintro (rfl | rfl | h)
      · exact NestedList.text
      · exact NestedList.object
      · exact NestedList.list h
    · intro h
      cases h with
      | null => exact absurd rfl hnull
      | text => exact Or.inl rfl
      | object => exact Or.inr (Or.inl rfl)
      | list h => exact Or.inr (Or.inr h)

theorem succeeds_widget_iff : Succeeds (widget v) ↔ Object WidgetFields v := by
  rw [widget, succeeds_fields_bind_iff]
  refine object_congr fun fs => ?_
  simp only [succeeds_bind_iff, succeeds_required_iff, succeeds_entries_iff, succeeds_items_iff,
    succeeds_nestedDecls_iff, succeeds_pure, gives_const_iff, and_true, succeeds_optionDecl_iff,
    succeeds_childRef_iff, widgetFields_iff]

theorem succeeds_read_iff : Succeeds (read v) ↔ Object DocumentFields v := by
  rw [read, succeeds_fields_bind_iff]
  refine object_congr fun fs => ?_
  simp only [succeeds_bind_iff, succeeds_entries_iff, succeeds_pure, gives_const_iff, and_true,
    succeeds_widget_iff, succeeds_typeDecl_iff, documentFields_iff]

end VueWrap.Metadata

namespace VueWrap.Source

open Metadata

/-- A document is taken as metadata if and only if it belongs to the grammar, wherever it comes
from. -/
theorem exists_build_eq_ok_iff (document : Value) (source : String) :
    (∃ m, build document source = .ok m) ↔ Object Grammar.DocumentFields document := by
  rw [← succeeds_read_iff]
  cases document with
  | obj fs => exact succeeds_mapError_iff
  | _ =>
    constructor
    · rintro ⟨_, h⟩
      cases h
    · rintro ⟨_, h⟩
      cases h

end VueWrap.Source
