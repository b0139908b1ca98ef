import VueWrap.Proofs.Outcome

/-! # Forms of values

A form says which values may stand somewhere in a document. The forms of records
are put together from those of their keys, and a reader that follows a form step
by step succeeds on the values of the form and on no others.
-/

namespace VueWrap.Metadata

abbrev Fields := List (String × Value)

abbrev Form := Value → Prop

def Any : Form := fun _ => True

inductive IsText : Form
  | mk (s : String) : IsText (.str s)

inductive IsTruth : Form
  | mk (b : Bool) : IsTruth (.bool b)

/-- Null, false, zero, and an empty text, list or object. -/
inductive Falsy : Form
  | null : Falsy .null
  | false : Falsy (.bool false)
  | zero : Falsy (.int 0)
  | zeroFloat {x : Double} (h : x.isZero = true) : Falsy (.float x)
  | text : Falsy (.str "")
  | list : Falsy (.arr [])
  | object : Falsy (.obj [])

def ListOf (P : Form) : Form := fun v => ∃ vs, v = .arr vs ∧ ∀ x ∈ vs, P x

def Object (F : Fields → Prop) : Form := fun v => ∃ fs, v = .obj fs ∧ F fs

/-- A falsy value, or a list with items of a form. -/
def FalsyOrListOf (P : Form) : Form := fun v => Falsy v ∨ ListOf P v

def NullOrListOf (P : Form) : Form := fun v => v = .null ∨ ListOf P v

/-- The key is there, with a value of a form. -/
def Needs (fs : Fields) (key : String) (P : Form) : Prop :=
  ∃ v, Value.field? fs key = some v ∧ P v

/-- The key is absent, or it has a value of a form. -/
def May (fs : Fields) (key : String) (P : Form) : Prop :=
  ∀ v, Value.field? fs key = some v → P v

variable {v : Value} {fs : Fields} {key : String} {P : Form} {α : Type}
  {entry : Value → Except Failure α} {Q : α → Prop}

@[simp] theorem isText_str (s : String) : IsText (.str s) := IsText.mk s

theorem IsText.exists_eq (h : IsText v) : ∃ s, v = .str s := by
  obtain ⟨s⟩ := h
  exact ⟨s, rfl⟩

theorem object_congr {F G : Fields → Prop} (h : ∀ fs, F fs ↔ G fs) : Object F v ↔ Object G v := by
  simp only [Object, h]

@[simp] theorem object_obj {F : Fields → Prop} : Object F (.obj fs) ↔ F fs := by
  constructor
  · rintro ⟨_, ⟨rfl⟩, h⟩
    exact h
  · exact fun h => ⟨fs, rfl, h⟩

@[simp] theorem listOf_arr {vs : List Value} : ListOf P (.arr vs) ↔ ∀ x ∈ vs, P x := by
  constructor
  · rintro ⟨_, ⟨rfl⟩, h⟩
    exact h
  · exact fun h => ⟨vs, rfl, h⟩

@[simp] theorem nullOrListOf_null : NullOrListOf P .null := Or.inl rfl

@[simp] theorem nullOrListOf_arr {vs : List Value} :
    NullOrListOf P (.arr vs) ↔ ∀ x ∈ vs, P x := by
  simp [NullOrListOf]

@[simp] theorem may_nil : May [] key P := by
  rintro v ⟨⟩

theorem field?_cons (k : String) (v : Value) (fs : Fields) (key : String) :
    Value.field? ((k, v) :: fs) key = if key = k then some v else Value.field? fs key := by
  unfold Value.field?
  rw [List.lookup_cons]
  split
  · rename_i h
    rw [if_pos (beq_iff_eq.mp h)]
  · rename_i h
    rw [if_neg (beq_eq_false_iff_ne.mp h)]

@[simp] theorem may_cons {k : String} :
    May ((k, v) :: fs) key P ↔ if key = k then P v else May fs key P := by
  unfold May
  rw [field?_cons]
  split <;> simp

@[simp] theorem needs_cons {k : String} :
    Needs ((k, v) :: fs) key P ↔ if key = k then P v else Needs fs key P := by
  unfold Needs
  rw [field?_cons]
  split <;> simp

theorem isEmpty_iff_falsy : v.isEmpty = true ↔ Falsy v := by
  constructor
  · intro h
    cases v with
    | null => exact Falsy.null
    | bool b =>
      cases b with
      | false => exact Falsy.false
      | true => cases h
    | int n =>
      obtain rfl : n = 0 := by simpa [Value.isEmpty] using h
      exact Falsy.zero
    | float x => exact Falsy.zeroFloat h
    | str s =>
      obtain rfl := String.isEmpty_iff.mp h
      exact Falsy.text
    | arr vs =>
      obtain rfl := List.isEmpty_iff.mp h
      exact Falsy.list
    | obj fs =>
      obtain rfl := List.isEmpty_iff.mp h
      exact Falsy.object
  · rintro (_ | _ | _ | h | _ | _ | _) <;> first | rfl | exact h

theorem may_iff_of_absent {default : Value} (h : P default) :
    May fs key P ↔ P (optional fs key default) := by
  unfold May optional
  cases Value.field? fs key with
  | none => exact ⟨fun _ => h, fun _ _ hv => by cases hv⟩
  | some v => exact ⟨fun hv => hv v rfl, fun hv _ hw => Option.some.inj hw ▸ hv⟩

theorem gives_fields_iff {R : Fields → Prop} : Gives (fields v) R ↔ Object R v := by
  cases v with
  | obj fs =>
    constructor
    · exact fun h => ⟨fs, rfl, gives_ok_iff.mp h⟩
    · rintro ⟨_, hfs, h⟩
      cases hfs
      exact gives_ok_iff.mpr h
  | _ =>
    refine ⟨fun h => absurd h not_gives_error, ?_⟩
    rintro ⟨_, hfs, -⟩
    cases hfs

theorem succeeds_fields_bind_iff {f : Fields → Except Failure α} :
    Succeeds (fields v >>= f) ↔ Object (fun fs => Succeeds (f fs)) v := by
  rw [succeeds_bind_iff, gives_fields_iff]

theorem gives_required_iff : Gives (required fs key) P ↔ Needs fs key P := by
  unfold required Needs
  cases Value.field? fs key with
  | none =>
    refine ⟨fun h => absurd h not_gives_error, ?_⟩
    rintro ⟨_, hv, -⟩
    cases hv
  | some v =>
    refine gives_ok_iff.trans ⟨fun h => ⟨v, rfl, h⟩, ?_⟩
    rintro ⟨_, hv, h⟩
    rwa [Option.some.inj hv]

theorem succeeds_required_iff : Succeeds (required fs key) ↔ Needs fs key Any := by
  rw [← gives_required_iff]
  exact (gives_const_iff.trans (and_iff_left trivial)).symm

/-- Entries are read from a list only; an empty text or object has none. -/
theorem succeeds_listed_iff : Succeeds (listed entry v) ↔
    v = .str "" ∨ v = .obj [] ∨ ListOf (fun x => Succeeds (entry x)) v := by
  constructor
  · rintro ⟨as, h⟩
    cases v with
    | arr vs => exact Or.inr (Or.inr ⟨vs, rfl, succeeds_mapM_iff.mp ⟨as, h⟩⟩)
    | str s =>
      simp only [listed] at h
      split at h
      · rename_i hs
        rw [String.isEmpty_iff.mp hs]
        exact Or.inl rfl
      · cases h
    | obj fs =>
      simp only [listed] at h
      split at h
      · rename_i hfs
        rw [List.isEmpty_iff.mp hfs]
        exact Or.inr (Or.inl rfl)
      · cases h
    | _ => cases h
  · rintro (rfl | rfl | ⟨vs, rfl, h⟩)
    · exact succeeds_ok
    · exact succeeds_ok
    · exact succeeds_mapM_iff.mpr h

theorem succeeds_entries_iff : Succeeds (entries entry fs key) ↔
    May fs key (FalsyOrListOf fun x => Succeeds (entry x)) := by
  rw [may_iff_of_absent (Or.inl Falsy.null)]
  simp only [entries]
  generalize optional fs key .null = v
  split
  · rename_i h
    exact ⟨fun _ => Or.inl (isEmpty_iff_falsy.mp h), fun _ => succeeds_ok⟩
  · rename_i h
    rw [succeeds_listed_iff]
    constructor
    · rintro (he | he | he)
      · exact absurd (by rw [he]; rfl) h
      · exact absurd (by rw [he]; rfl) h
      · exact Or.inr he
    · rintro (he | he)
      · exact absurd (isEmpty_iff_falsy.mpr he) h
      · exact Or.inr (Or.inr he)

/-- A falsy value, or one that can be run through: a list, a text or an object. -/
inductive FalsyOrIterable : Form
  | falsy {v : Value} (h : Falsy v) : FalsyOrIterable v
  | list (vs : List Value) : FalsyOrIterable (.arr vs)
  | text (s : String) : FalsyOrIterable (.str s)
  | object (fs : Fields) : FalsyOrIterable (.obj fs)

theorem succeeds_items_iff : Succeeds (items fs key) ↔ May fs key FalsyOrIterable := by
  rw [may_iff_of_absent (.falsy Falsy.null)]
  simp only [items]
  generalize optional fs key .null = v
  split
  · rename_i h
    exact ⟨fun _ => .falsy (isEmpty_iff_falsy.mp h), fun _ => succeeds_ok⟩
  · rename_i h
    constructor
    · rintro ⟨vs, hvs⟩
      cases v with
      | arr vs => exact .list vs
      | str s => exact .text s
      | obj fs => exact .object fs
      | _ => cases hvs
    · rintro (hv | _ | _ | _)
      · exact absurd (isEmpty_iff_falsy.mpr hv) h
      · exact succeeds_ok
      · exact succeeds_ok
      · exact succeeds_ok

end VueWrap.Metadata
