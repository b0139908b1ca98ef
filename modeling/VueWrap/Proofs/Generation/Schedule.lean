import VueWrap.Generation
import VueWrap.Proofs.FileTree.Edits

/-! # The schedule of a run

What a run has to do, as one list of steps that depends on the metadata and the
settings alone: the modules of the widgets in order, the index, and where they
are wanted the directory and the modules of the shared exports. A step whose
path or document cannot be had is blocked. `Performed` and `Stopped` say what
it means to take the steps in order, all of them or up to one that fails.
-/

namespace VueWrap.Generation

inductive Step where
  /-- A document is put into words and written to the file that a value names. -/
  | write (target : Value) (d : Module.Document)
  /-- A directory has to be there. -/
  | makeDir (path : String)
  /-- Something that the step needs cannot be had. -/
  | blocked (e : Failure)

namespace Step

def file? : Step → Option String
  | write (.str path) _ => some (Path.tidy path)
  | _ => none

def path? : Step → Option String
  | makeDir path => some path
  | s => s.file?

inductive Does : FileTree → Step → FileTree → Prop
  | write {t t' : FileTree} {path : String} {d : Module.Document} {text : List Char}
      {bytes : ByteArray} (hd : d.look t = .ok text) (hb : Text.bytes? text = some bytes)
      (hw : t.write (Path.tidy path) bytes = .ok t') : Does t (write (.str path) d) t'
  | makeDir {t t' : FileTree} {path : String} (hm : t.makeDir path = .ok t') :
      Does t (makeDir path) t'

/-- Why a step fails in a tree, and what it leaves. A refusal of the system is told as a failure of
the generation. Nothing is changed, but a text without bytes leaves its file empty. -/
inductive Fails : FileTree → Step → FileTree → Failure → Prop
  | unrendered {t : FileTree} {target : Value} {d : Module.Document} {e : Failure}
      (hd : d.look t = .error e) : Fails t (write target d) t e
  | unnamed {t : FileTree} {target : Value} {d : Module.Document} {text : List Char} {e : Failure}
      (hd : d.look t = .ok text) (ht : asPath target = .error e) : Fails t (write target d) t e
  | unwritable {t : FileTree} {path : String} {d : Module.Document} {text : List Char}
      {bytes : ByteArray} {o : Obstacle} (hd : d.look t = .ok text)
      (hw : t.write (Path.tidy path) bytes = .error o) : Fails t (write (.str path) d) t
        (.ofObstacle (fun c => .generation (.unwritable (Path.tidy path) c)) o)
  | emptied {t t' : FileTree} {path : String} {d : Module.Document} {text : List Char}
      (hd : d.look t = .ok text) (hb : Text.bytes? text = none)
      (hw : t.write (Path.tidy path) .empty = .ok t') :
      Fails t (write (.str path) d) t' .unencodable
  | noDirectory {t : FileTree} {path : String} {o : Obstacle} (hm : t.makeDir path = .error o) :
      Fails t (makeDir path) t (.ofObstacle (fun c => .generation (.noDirectory path c)) o)
  | blocked {t : FileTree} {e : Failure} : Fails t (blocked e) t e

end Step

inductive Performed : FileTree → List Step → FileTree → Prop
  | nil {t : FileTree} : Performed t [] t
  | cons {t t₁ t' : FileTree} {s : Step} {ss : List Step} (hs : s.Does t t₁)
      (hss : Performed t₁ ss t') : Performed t (s :: ss) t'

/-- The steps before a failing one are taken in order, and nothing comes after it. -/
def Stopped (t : FileTree) (ss : List Step) (t' : FileTree) (e : Failure) : Prop :=
  ∃ done s later t₁, ss = done ++ s :: later ∧ Performed t done t₁ ∧ s.Fails t₁ t' e

section Schedule

variable (c : Context) (g : Registry)

def moduleOf (w : Widget) : Except Failure (String × Component) := do
  let file ← (Mapping.widget c.resolver g (places c.settings) w).result
  let dir ← asPath c.settings.componentsDir
  return (Path.join dir file.fileName, file.component)

def entryOf (w : Widget) : Except Failure Module.Entry := do
  let m ← moduleOf c g w
  let target ← importPath c.here c.settings.indexFile (.str m.1)
  return ⟨.str m.2.name, .str target⟩

def widgetStep (w : Widget) : Step :=
  match moduleOf c g w with
  | .error e => .blocked e
  | .ok m => .write (.str m.1) (Module.componentDocument c.templates c.settings.package
      c.settings.version c.settings.reexports m.2)

/-- A module without an entry in the index blocks all that comes after it. -/
def entrySteps (w : Widget) : List Step :=
  match entryOf c g w with
  | .error e => [.blocked e]
  | .ok _ => []

def indexStep (ws : List Widget) : Step :=
  match ws.mapM (entryOf c g) with
  | .error e => .blocked e
  | .ok entries => .write c.settings.indexFile (Module.indexDocument c.templates entries)

def groupStep (dir : String) (group : String × Value) : Step :=
  match Module.sharedFile (.str group.1) c.settings.extension with
  | .error e => .blocked e
  | .ok name => .write (.str (Path.child dir name))
      (Module.sharedDocument c.templates c.settings.package (.str group.1) group.2)

/-- The directory of the shared exports, and their modules in the order of their keys. -/
def sharedSteps (m : Metadata) : List Step :=
  if wantsShared c.settings m then
    match asPath c.settings.componentsDir with
    | .error e => [.blocked e]
    | .ok base => .makeDir (Path.child base Module.sharedIndex) ::
      match Metadata.fields m.commonReexports with
      | .error e => [.blocked e]
      | .ok groups => groups.map (groupStep c (Path.child base Module.sharedIndex))
  else []

def schedule (m : Metadata) : List Step :=
  match Registry.ofList m.types with
  | .error e => [.blocked e]
  | .ok g => m.widgets.flatMap (fun w => widgetStep c g w :: entrySteps c g w) ++
      indexStep c g m.widgets :: sharedSteps c m

end Schedule

theorem schedule_of_registry {c : Context} {g : Registry} {m : Metadata}
    (hg : Registry.ofList m.types = .ok g) :
    schedule c m = m.widgets.flatMap (fun w => widgetStep c g w :: entrySteps c g w) ++
      indexStep c g m.widgets :: sharedSteps c m := by
  rw [schedule, hg]

variable {t t₁ t₂ t' : FileTree} {s : Step} {ss ss' : List Step} {e : Failure}

theorem Performed.append (h : Performed t ss t₁) (h' : Performed t₁ ss' t') :
    Performed t (ss ++ ss') t' := by
  induction h with
  | nil => exact h'
  | cons hs _ ih => exact .cons hs (ih h')

theorem Performed.singleton (h : s.Does t t') : Performed t [s] t' := .cons h .nil

theorem Stopped.append (h : Stopped t ss t' e) (ss' : List Step) :
    Stopped t (ss ++ ss') t' e := by
  obtain ⟨done, s, later, t₁, rfl, hp, hf⟩ := h
  exact ⟨done, s, later ++ ss', t₁, by simp, hp, hf⟩

theorem Stopped.after (h : Performed t ss t₁) (h' : Stopped t₁ ss' t' e) :
    Stopped t (ss ++ ss') t' e := by
  obtain ⟨done, s, later, t₂, rfl, hp, hf⟩ := h'
  exact ⟨ss ++ done, s, later, t₂, by simp, h.append hp, hf⟩

theorem Stopped.head (h : s.Fails t t' e) (later : List Step) : Stopped t (s :: later) t' e :=
  ⟨[], s, later, t, rfl, .nil, h⟩

theorem Step.Does.here_eq (h : s.Does t t') : t'.here = t.here := by
  cases h with
  | write _ _ hw => exact FileTree.here_of_write hw
  | makeDir hm => exact FileTree.here_of_makeDir hm

theorem Performed.here_eq (h : Performed t ss t') : t'.here = t.here := by
  induction h with
  | nil => rfl
  | cons hs _ ih => exact ih.trans hs.here_eq

/-- A step changes nothing but the place that its path leads to. -/
theorem Step.Does.changed (h : s.Does t t') {place : List String}
    (hne : t'.entry? place ≠ t.entry? place) :
    ∃ path, s.path? = some path ∧ place = FileTree.placeOf t.here path := by
  cases h with
  | write _ _ hw => exact ⟨_, rfl, FileTree.eq_placeOf_of_write hw hne⟩
  | makeDir hm => exact ⟨_, rfl, FileTree.eq_placeOf_of_makeDir hm hne⟩

theorem Step.Fails.here_eq (h : s.Fails t t' e) : t'.here = t.here := by
  cases h with
  | emptied _ _ hw => exact FileTree.here_of_write hw
  | _ => rfl

/-- A step that fails changes at most the place that its path leads to. -/
theorem Step.Fails.changed (h : s.Fails t t' e) {place : List String}
    (hne : t'.entry? place ≠ t.entry? place) :
    ∃ path, s.path? = some path ∧ place = FileTree.placeOf t.here path := by
  cases h with
  | emptied _ _ hw => exact ⟨_, rfl, FileTree.eq_placeOf_of_write hw hne⟩
  | _ => exact absurd rfl hne

/-- Only a text without bytes makes a step that fails change something. -/
theorem Step.Fails.eq_of_ne (h : s.Fails t t' e) (he : e ≠ .unencodable) : t' = t := by
  cases h with
  | emptied => exact absurd rfl he
  | _ => rfl

/-- Steps change nothing but the places that their paths lead to. -/
theorem Performed.changed (h : Performed t ss t') {place : List String}
    (hne : t'.entry? place ≠ t.entry? place) :
    ∃ s ∈ ss, ∃ path, s.path? = some path ∧ place = FileTree.placeOf t.here path := by
  induction h with
  | nil => exact absurd rfl hne
  | @cons t t₁ t' s ss hs hss ih =>
    by_cases hlast : t'.entry? place = t₁.entry? place
    · obtain ⟨path, hpath, hplace⟩ := hs.changed (hlast ▸ hne)
      exact ⟨s, List.mem_cons_self, path, hpath, hplace⟩
    · obtain ⟨s', hs', path, hpath, hplace⟩ := ih hlast
      exact ⟨s', List.mem_cons_of_mem _ hs', path, hpath, hs.here_eq ▸ hplace⟩

theorem Step.Does.isDir (h : s.Does t t') {place : List String}
    (hd : t.entry? place = some .dir) : t'.entry? place = some .dir := by
  cases h with
  | write _ _ hw => exact FileTree.isDir_of_write hw hd
  | makeDir hm => exact FileTree.isDir_of_makeDir hm hd

theorem Performed.isDir (h : Performed t ss t') {place : List String}
    (hd : t.entry? place = some .dir) : t'.entry? place = some .dir := by
  induction h with
  | nil => exact hd
  | cons hs _ ih => exact ih (hs.isDir hd)

theorem Performed.exists_of_append (h : Performed t (ss ++ ss') t') :
    ∃ t₁, Performed t ss t₁ ∧ Performed t₁ ss' t' := by
  induction ss generalizing t with
  | nil => exact ⟨t, .nil, h⟩
  | cons s ss ih =>
    cases h with
    | cons hs hss =>
      obtain ⟨t₁, hfront, hrest⟩ := ih hss
      exact ⟨t₁, .cons hs hfront, hrest⟩

theorem Performed.split (h : Performed t (ss ++ s :: ss') t') :
    ∃ t₁ t₂, Performed t ss t₁ ∧ s.Does t₁ t₂ ∧ Performed t₂ ss' t' := by
  obtain ⟨t₁, hbefore, hrest⟩ := h.exists_of_append
  cases hrest with
  | cons hdoes hafter => exact ⟨t₁, _, hbefore, hdoes, hafter⟩

/-- A text without bytes is written by no run. -/
theorem Performed.bytes?_ne_none {path : String} {text : List Char}
    (h : Performed t (.write (.str path) (.text text) :: ss) t') : Text.bytes? text ≠ none := by
  cases h with
  | cons hs _ =>
    cases hs with
    | write hd hb _ =>
      cases hd
      rw [hb]
      exact Option.some_ne_none _

theorem Step.Does.unique (h : s.Does t t₁) (h' : s.Does t t₂) : t₁ = t₂ := by
  cases h with
  | write hd hb hw =>
    cases h' with
    | write hd' hb' hw' =>
      obtain rfl := Except.ok.inj (hd.symm.trans hd')
      obtain rfl := Option.some.inj (hb.symm.trans hb')
      exact Except.ok.inj (hw.symm.trans hw')
  | makeDir hm =>
    cases h' with
    | makeDir hm' => exact Except.ok.inj (hm.symm.trans hm')

theorem Step.Does.not_fails (h : s.Does t t₁) : ¬ s.Fails t t₂ e := by
  intro h'
  cases h with
  | write hd hb hw =>
    cases h' with
    | unrendered hd' => cases hd.symm.trans hd'
    | unnamed _ ht => cases ht
    | unwritable _ hw' =>
      have hnodir := (FileTree.write_eq_ok hw).1
      cases hw'.symm.trans (FileTree.write_of_locate (FileTree.locate_of_write hw) hnodir _)
    | emptied hd' hb' _ =>
      obtain rfl := Except.ok.inj (hd.symm.trans hd')
      cases hb.symm.trans hb'
  | makeDir hm =>
    cases h' with
    | noDirectory hm' => cases hm.symm.trans hm'

theorem Performed.unique (h : Performed t ss t₁) (h' : Performed t ss t₂) : t₁ = t₂ := by
  induction h with
  | nil =>
    cases h'
    rfl
  | cons hs _ ih =>
    cases h' with
    | cons hs' hss' =>
      obtain rfl := hs.unique hs'
      exact ih hss'

theorem Performed.not_stopped (h : Performed t ss t₁) : ¬ Stopped t ss t₂ e := by
  rintro ⟨done, s, later, _, rfl, hdone, hfails⟩
  obtain ⟨t₃, t₄, hbefore, hdoes, -⟩ := h.split
  obtain rfl := hbefore.unique hdone
  exact hdoes.not_fails hfails

/-- Steps that fail after some have been taken fail from there on. -/
theorem Stopped.rest (h : Performed t ss t₁) (hs : Stopped t (ss ++ ss') t' e) :
    Stopped t₁ ss' t' e := by
  induction h with
  | nil => exact hs
  | cons hdoes _ ih =>
    apply ih
    obtain ⟨done, s, later, t₂, hsplit, hp, hf⟩ := hs
    cases hp with
    | nil =>
      cases hsplit
      exact absurd hf hdoes.not_fails
    | cons hdoes' hrest =>
      have hparts := List.cons.inj hsplit
      obtain rfl := hdoes.unique (hparts.1 ▸ hdoes')
      exact ⟨_, s, later, t₂, hparts.2, hrest, hf⟩

end VueWrap.Generation
