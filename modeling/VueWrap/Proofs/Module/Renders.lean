import VueWrap.Module.Document
import VueWrap.Proofs.Json.ReadBack
import VueWrap.Proofs.Mapping.Parts

/-! # Modules of textual components

A component whose types are texts has a module in both versions. Its document is
a text where all of its values can be written.
-/

namespace VueWrap.Module

open Metadata

variable {types : List Value} {p : PropDecl} {ps : List PropDecl} {c : Component}

theorem exists_mapM_eq_some {α β : Type} {f : α → Option β} {P : β → Prop} {as : List α}
    (h : ∀ a ∈ as, ∃ b, f a = some b ∧ P b) : ∃ bs, as.mapM f = some bs ∧ ∀ b ∈ bs, P b := by
  induction as with
  | nil => exact ⟨[], rfl, List.forall_mem_nil _⟩
  | cons a as ih =>
    rw [List.forall_mem_cons] at h
    obtain ⟨b, hb, hP⟩ := h.1
    obtain ⟨bs, hbs, hPs⟩ := ih h.2
    refine ⟨b :: bs, ?_, List.forall_mem_cons.mpr ⟨hP, hPs⟩⟩
    rw [List.mapM_cons, hb, hbs]
    rfl

theorem isSome_mapM {α β : Type} {f : α → Option β} {as : List α} (h : ∀ a ∈ as, (f a).isSome) :
    (as.mapM f).isSome := by
  obtain ⟨bs, hbs, -⟩ := exists_mapM_eq_some (P := fun _ => True) fun a ha =>
    (Option.isSome_iff_exists.mp (h a ha)).imp fun _ hb => ⟨hb, trivial⟩
  rw [hbs]
  rfl

theorem succeeds_bracketed (h : ∀ t ∈ types, IsText t) : Succeeds (bracketed types) := by
  rw [bracketed, succeeds_bind_iff]
  refine (succeeds_mapM_iff.mpr fun t ht => ?_).gives.imp fun _ _ => succeeds_pure _
  obtain ⟨s, rfl⟩ := (h t ht).exists_eq
  exact succeeds_ok

theorem succeeds_constructors (h : ∀ t ∈ types, IsText t) :
    Succeeds (constructors (.arr types)) := by
  match types, h with
  | [], _ => exact succeeds_ok
  | [t], _ => exact succeeds_ok
  | t :: t' :: ts, h => exact succeeds_bracketed h

theorem isSome_constructorText (h : ∀ t ∈ types, IsText t) : (constructorText types).isSome := by
  obtain ⟨v, hv⟩ := succeeds_constructors h
  rw [constructorText, hv]
  rfl

theorem isSome_propEntry (h : p.Textual) : (propEntry p).isSome := by
  obtain ⟨s, hs⟩ := Option.isSome_iff_exists.mp (isSome_constructorText h)
  simp only [propEntry, hs]
  split <;> rfl

theorem isSome_propsBlock (h : ∀ p ∈ ps, p.Textual) : (propsBlock ps).isSome := by
  have hentries := isSome_mapM fun p hp => isSome_propEntry (h p hp)
  obtain ⟨entries, he⟩ := Option.isSome_iff_exists.mp hentries
  rw [propsBlock, he]
  rfl

theorem isSome_nestedDefinitions (v : VueVersion) (factory : String) {ns : List Nested}
    (h : ∀ n ∈ ns, ∀ p ∈ n.props, p.Textual) : (nestedDefinitions v factory ns).isSome := by
  rw [nestedDefinitions, Option.isSome_map]
  refine isSome_mapM fun n hn => ?_
  rw [Option.isSome_map]
  exact isSome_propsBlock (h n hn)

theorem isSome_component (t : Target) (h : c.Textual) : (component t c).isSome := by
  have hnested : ∀ n ∈ c.nested.getD [], ∀ p ∈ n.props, p.Textual := by
    cases hns : c.nested with
    | none => exact fun _ hn => absurd hn List.not_mem_nil
    | some ns => exact h.nested ns hns
  obtain ⟨props, hprops⟩ := Option.isSome_iff_exists.mp (isSome_propsBlock h.props)
  obtain ⟨inner, hinner⟩ :=
    Option.isSome_iff_exists.mp (isSome_nestedDefinitions t.version c.config.name hnested)
  simp only [component, hprops, hinner]
  rfl

inductive Document.IsText : Document → Prop
  | mk (cs : List Char) : IsText (.text cs)

theorem Document.IsText.exists_eq {d : Document} (h : d.IsText) : ∃ cs, d = .text cs := by
  obtain ⟨cs⟩ := h
  exact ⟨cs, rfl⟩

@[simp] theorem Document.rendered_true (template : String) (cs : List Char) :
    Document.rendered template true (some cs) = .text cs := rfl

@[simp] theorem Document.rendered_false (template : String) (cs? : Option (List Char)) :
    Document.rendered template false cs? = .none (.template (.unrenderable template)) := rfl

theorem Document.rendered_cases {template : String} (writable : Bool) (cs : List Char) :
    (∃ text, rendered template writable (some cs) = .text text) ∨
      rendered template writable (some cs) = rendered template false Option.none := by
  cases writable with
  | false => exact Or.inr rfl
  | true => exact Or.inl ⟨cs, rfl⟩

theorem Document.isText_rendered_iff {template : String} {writable : Bool} {cs : List Char} :
    (Document.rendered template writable (some cs)).IsText ↔ writable = true := by
  cases writable with
  | false => exact iff_of_false (by rintro ⟨⟩) Bool.false_ne_true
  | true => exact iff_of_true (.mk cs) rfl

theorem isWritable_of_isText {v : Value} (h : IsText v) : Json.isWritable v = true := by
  obtain ⟨s⟩ := h
  rfl

theorem itemsWritable_of_isText {vs : List Value} (h : ∀ v ∈ vs, IsText v) :
    Json.itemsWritable vs = true :=
  Json.itemsWritable_iff.mpr fun v hv => isWritable_of_isText (h v hv)

theorem joins_of_joinable {t : Target} (hpackage : IsText t.package) (h : c.Joinable) :
    t.joins c = true := by
  have hprops : ∀ p ∈ eventProps t.version c, IsText p.name := by
    intro p hp
    rcases List.mem_append.mp hp with hp | hp
    · exact h.props p hp
    · split at hp
      · cases hp
      · obtain ⟨n, hn, hp⟩ := List.mem_flatMap.mp hp
        exact h.nested n hn p hp
  rw [Target.joins, isWritable_of_isText hpackage, isWritable_of_isText h.path, Bool.true_and,
    Bool.true_and, List.all_eq_true]
  exact fun p hp => isWritable_of_isText (hprops p hp)

/-- The document of a component depends on nothing but whether its values can be written. -/
theorem exists_componentDocument_eq {package version : Value} (reexports : Value)
    (hpackage : IsText package) (hversion : (VueVersion.of? version).isSome) (h : c.Textual)
    (hjoins : c.Joinable) : ∃ cs, componentDocument .builtIn package version reexports c =
      .rendered componentTemplate c.isWritable (some cs) := by
  obtain ⟨v, hv⟩ := Option.isSome_iff_exists.mp hversion
  obtain ⟨cs, hcs⟩ := Option.isSome_iff_exists.mp (isSome_component ⟨package, v, reexports.holds⟩ h)
  refine ⟨cs, ?_⟩
  simp only [componentDocument, hv, joins_of_joinable (t := ⟨package, v, _⟩) hpackage hjoins, hcs,
    Bool.not_true, Bool.false_eq_true, if_false]

theorem isText_indexDocument {entries : List Entry}
    (h : ∀ e ∈ entries, IsText e.name ∧ IsText e.path) :
    (indexDocument .builtIn entries).IsText := by
  refine Document.isText_rendered_iff.mpr (List.all_eq_true.mpr fun e he => ?_)
  rw [Entry.isWritable, isWritable_of_isText (h e he).1, isWritable_of_isText (h e he).2]
  rfl

theorem isText_sharedDocument {package key names : Value} (hpackage : IsText package)
    (hkey : IsText key) (h : ListOf IsText names) :
    (sharedDocument .builtIn package key names).IsText := by
  obtain ⟨vs, rfl, hvs⟩ := h
  refine Document.isText_rendered_iff.mpr (itemsWritable_of_isText ?_)
  exact List.forall_mem_cons.mpr ⟨hpackage, List.forall_mem_cons.mpr ⟨hkey, hvs⟩⟩

theorem succeeds_sharedFile (key : String) (extension : Value) :
    Succeeds (sharedFile (.str key) extension) := succeeds_ok

end VueWrap.Module
