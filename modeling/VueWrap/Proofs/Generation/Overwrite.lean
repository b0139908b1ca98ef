import Mathlib.Data.List.Nodup
import VueWrap.Proofs.Generation.Prefix
import VueWrap.Proofs.Mapping.Parts
import VueWrap.Proofs.Path.Relative

/-! # Which modules a run keeps

A module stays in its file unless a later module of the run goes to the same
place; nothing else makes room for one or keeps one from being replaced. So all
modules are kept where their places are distinct, which is a matter of the names
of their files. Widgets may have distinct names and share a file.
-/

namespace VueWrap.Generation

variable {t t' : FileTree} {s : Step} {ss before after : List Step} {place : List String}
  {bytes : ByteArray} {c : Context} {g : Registry} {m : Metadata} {w : Widget} {base : String}

def Step.place? (here : List String) (s : Step) : Option (List String) :=
  s.file?.map (FileTree.placeOf here)

theorem Step.place?_write (here : List String) (path : String) (d : Module.Document) :
    (write (.str path) d).place? here = some (FileTree.placeOf here path) := by
  rw [place?, file?, Option.map_some, FileTree.placeOf_tidy]

theorem Step.Does.entry?_of_file (h : s.Does t t') (hfile : t.entry? place = some (.file bytes))
    (hne : s.place? t.here ≠ some place) : t'.entry? place = some (.file bytes) := by
  cases h with
  | write _ _ hw =>
    rw [place?_write, ne_eq, Option.some_inj, ← FileTree.placeOf_tidy] at hne
    rw [FileTree.entry?_of_write_of_ne hw (Ne.symm hne), hfile]
  | makeDir hm =>
    -- A directory is not made where a file is.
    rcases FileTree.makeDir_eq_ok hm with ⟨-, rfl⟩ | ⟨hnone, rfl⟩
    · exact hfile
    · rw [FileTree.entry?_set_of_ne _ t .dir, hfile]
      rintro rfl
      rw [hfile] at hnone
      cases hnone

theorem Performed.entry?_of_file (h : Performed t ss t')
    (hfile : t.entry? place = some (.file bytes))
    (hne : ∀ s ∈ ss, s.place? t.here ≠ some place) : t'.entry? place = some (.file bytes) := by
  induction h with
  | nil => exact hfile
  | cons hs _ ih =>
    rw [List.forall_mem_cons] at hne
    refine ih (hs.entry?_of_file hfile hne.1) ?_
    rw [hs.here_eq]
    exact hne.2

/-- The step is one of `ss`, which lead from `t` to `t'`, and its file still has the text that the
step wrote there. -/
inductive Kept (t : FileTree) (ss : List Step) (t' : FileTree) : Step → Prop
  | mk {before after : List Step} {t₁ : FileTree} {path : String} {d : Module.Document}
    {text : List Char} {bytes : ByteArray} (hss : ss = before ++ .write (.str path) d :: after)
    (hbefore : Performed t before t₁) (htext : d.look t₁ = .ok text)
    (hbytes : Text.bytes? text = some bytes)
    (hfile : t'.entry? (FileTree.placeOf t.here path) = some (.file bytes)) :
    Kept t ss t' (.write (.str path) d)

/-- Of the steps that write to one place the last one counts. -/
theorem Performed.kept (h : Performed t (before ++ s :: after) t')
    (hplace : s.place? t.here = some place) (hlast : ∀ s' ∈ after, s'.place? t.here ≠ some place) :
    Kept t (before ++ s :: after) t' s := by
  obtain ⟨t₁, t₂, hbefore, hdoes, hafter⟩ := h.split
  cases hdoes with
  | makeDir => cases hplace
  | write hd hb hw =>
    rw [Step.place?_write, Option.some_inj] at hplace
    have hhere : t₂.here = t.here := (FileTree.here_of_write hw).trans hbefore.here_eq
    have hwritten := FileTree.entry?_of_write hw
    rw [hbefore.here_eq, FileTree.placeOf_tidy] at hwritten
    refine .mk rfl hbefore hd hb (hafter.entry?_of_file hwritten fun s' hs' => ?_)
    rw [hhere, hplace]
    exact hlast s' hs'

theorem Performed.does (h : Performed t ss t') (hs : s ∈ ss) : ∃ t₁ t₂, s.Does t₁ t₂ := by
  obtain ⟨before, after, rfl⟩ := List.append_of_mem hs
  obtain ⟨t₁, t₂, -, hdoes, -⟩ := h.split
  exact ⟨t₁, t₂, hdoes⟩

theorem Performed.blocked_not_mem (h : Performed t ss t') (e : Failure) : .blocked e ∉ ss := by
  intro hmem
  obtain ⟨_, _, hdoes⟩ := h.does hmem
  cases hdoes

/-- Steps that write to distinct places are all kept. -/
theorem Performed.kept_of_nodup (h : Performed t ss t')
    (hdistinct : (ss.filterMap (Step.place? t.here)).Nodup) (hs : s ∈ ss)
    (hwrites : ∀ path, s ≠ .makeDir path) : Kept t ss t' s := by
  obtain ⟨place, hplace⟩ : ∃ place, s.place? t.here = some place := by
    obtain ⟨_, _, hdoes⟩ := h.does hs
    cases hdoes with
    | write => exact ⟨_, Step.place?_write _ _ _⟩
    | makeDir => exact absurd rfl (hwrites _)
  obtain ⟨before, after, rfl⟩ := List.append_of_mem hs
  -- A later step to the same place would give that place twice.
  refine h.kept hplace fun s' hs' hsame => ?_
  rw [List.filterMap_append, List.filterMap_cons_some hplace, List.nodup_append] at hdistinct
  exact (List.nodup_cons.mp hdistinct.2.1).1 (List.mem_filterMap.mpr ⟨s', hs', hsame⟩)

def componentFile (s : Settings) (w : Widget) : Except Failure String :=
  (Mapping.widgetName w.name).map fun name => Naming.fileStem name ++ s.extension.display

def groups (s : Settings) (m : Metadata) : List (String × Value) :=
  if wantsShared s m then
    match m.commonReexports with
    | .obj groups => groups
    | _ => []
  else []

/-- The names of the files below the directories of the components and of the shared exports. -/
structure FileNames (s : Settings) (m : Metadata) (components shared : List String) : Prop where
  components : m.widgets.map (componentFile s) = components.map .ok
  shared : (groups s m).map (fun group => Module.sharedFile (.str group.1) s.extension) =
    shared.map .ok

theorem givesOnly_moduleOf (hbase : c.settings.componentsDir = .str base) :
    GivesOnly (moduleOf c g w) fun p =>
      ∃ name, componentFile c.settings w = .ok name ∧ p.1 = Path.join base name := by
  refine GivesOnly.bind (Mapping.givesOnly_widget_isFileOf _ w) fun file hfile => ?_
  obtain ⟨name, hof⟩ := hfile
  rw [hbase]
  refine givesOnly_ok ⟨file.fileName, ?_, rfl⟩
  rw [componentFile, hof.widgetName, hof.fileName]
  rfl

section Names

variable {here : List String}

/-- Steps that none is blocked of have files named one by one. -/
theorem exists_names (here : List String) {α : Type} {steps : α → List Step}
    {name : α → Except Failure String} {placeOf : String → List String} {as : List α}
    (hone : ∀ a, (∀ e, .blocked e ∉ steps a) →
      ∃ n, name a = .ok n ∧ (steps a).filterMap (Step.place? here) = [placeOf n])
    (h : ∀ e, .blocked e ∉ as.flatMap steps) :
    ∃ names : List String, as.map name = names.map .ok ∧
      (as.flatMap steps).filterMap (Step.place? here) = names.map placeOf := by
  induction as with
  | nil => exact ⟨[], rfl, rfl⟩
  | cons a as ih =>
    simp only [List.flatMap_cons, List.mem_append, not_or] at h
    obtain ⟨n, hn, hplace⟩ := hone a fun e => (h e).1
    obtain ⟨names, hnames, hplaces⟩ := ih fun e => (h e).2
    refine ⟨n :: names, ?_, ?_⟩
    · rw [List.map_cons, hn, hnames, List.map_cons]
    · rw [List.flatMap_cons, List.filterMap_append, hplace, hplaces]
      rfl

theorem exists_componentFile (hbase : c.settings.componentsDir = .str base)
    (h : ∀ e, .blocked e ∉ widgetStep c g w :: entrySteps c g w) :
    ∃ n, componentFile c.settings w = .ok n ∧
      (widgetStep c g w :: entrySteps c g w).filterMap (Step.place? here) =
        [FileTree.placeOf here (Path.join base n)] := by
  cases hm : moduleOf c g w with
  | error e =>
    rw [widgetStep, hm] at h
    exact absurd List.mem_cons_self (h e)
  | ok p =>
    obtain ⟨n, hn, hp⟩ := givesOnly_moduleOf hbase p hm
    have hentry : entrySteps c g w = [] := by
      rw [entrySteps]
      split
      · rename_i e he
        refine absurd (List.mem_cons_of_mem _ ?_) (h e)
        rw [entrySteps, he]
        exact List.mem_singleton_self _
      · rfl
    refine ⟨n, hn, ?_⟩
    rw [hentry, widgetStep, hm, ← hp]
    exact List.filterMap_cons_some (Step.place?_write here p.1 _)

theorem exists_sharedFile {dir : String} (group : String × Value)
    (h : ∀ e, .blocked e ∉ [groupStep c dir group]) :
    ∃ n, Module.sharedFile (.str group.1) c.settings.extension = .ok n ∧
      [groupStep c dir group].filterMap (Step.place? here) =
        [FileTree.placeOf here (Path.child dir n)] := by
  cases hn : Module.sharedFile (.str group.1) c.settings.extension with
  | error e =>
    rw [groupStep, hn] at h
    exact absurd List.mem_cons_self (h e)
  | ok n =>
    refine ⟨n, rfl, ?_⟩
    rw [groupStep, hn]
    exact List.filterMap_cons_some (Step.place?_write here _ _)

theorem sharedSteps_eq (hbase : c.settings.componentsDir = .str base)
    (h : ∀ e, .blocked e ∉ sharedSteps c m) :
    sharedSteps c m = (if wantsShared c.settings m
        then [.makeDir (Path.child base Module.sharedIndex)] else []) ++
      (groups c.settings m).map (groupStep c (Path.child base Module.sharedIndex)) := by
  rw [sharedSteps, hbase] at h ⊢
  rw [groups]
  split
  · rename_i hwants
    rw [if_pos hwants] at h
    cases hcommon : m.commonReexports with
    | obj fs => rfl
    | _ =>
      rw [hcommon] at h
      exact absurd (List.mem_cons_of_mem _ (List.mem_singleton_self _)) (h .wrongKind)
  · rfl

/-- Where all steps can be taken, they lead to the places of the files with these names. -/
theorem exists_fileNames {index : List String} (hbase : c.settings.componentsDir = .str base)
    (hg : Registry.ofList m.types = .ok g) (h : ∀ e, .blocked e ∉ schedule c m)
    (hindex : (indexStep c g m.widgets).place? here = some index) :
    ∃ components shared, FileNames c.settings m components shared ∧
      (schedule c m).filterMap (Step.place? here) =
        components.map (fun n => FileTree.placeOf here (Path.join base n)) ++ index ::
          shared.map fun n =>
            FileTree.placeOf here (Path.child (Path.child base Module.sharedIndex) n) := by
  rw [schedule_of_registry hg] at h ⊢
  simp only [List.mem_append, List.mem_cons, not_or] at h
  have hshared := fun e => (h e).2.2
  rw [sharedSteps_eq hbase hshared] at hshared
  simp only [List.mem_append, not_or, List.map_eq_flatMap] at hshared
  obtain ⟨components, hcomponents, hplaces⟩ :=
    exists_names here (fun _ => exists_componentFile hbase) fun e => (h e).1
  obtain ⟨shared, hnames, hplaces'⟩ :=
    exists_names here exists_sharedFile fun e => (hshared e).2
  refine ⟨components, shared, ⟨hcomponents, hnames⟩, ?_⟩
  have hdir : (if wantsShared c.settings m
      then [Step.makeDir (Path.child base Module.sharedIndex)] else []).filterMap
        (Step.place? here) = [] := by
    split <;> rfl
  rw [← List.map_eq_flatMap] at hplaces'
  show List.filterMap _ (_ ++ _) = _
  rw [List.filterMap_append, hplaces, sharedSteps_eq hbase fun e => (h e).2.2,
    List.filterMap_cons_some hindex, List.filterMap_append, hdir, hplaces', List.nil_append]

theorem isName_sharedIndex : Path.IsName Module.sharedIndex :=
  ⟨⟨by decide, by decide, by decide⟩, by decide⟩

/-- Components and shared exports have directories of their own, so only names that are alike, or
the index, can bring two files to one place. -/
theorem nodup_places_iff {dir index : List String} {components shared : List String} :
    (components.map (fun n => dir ++ [n]) ++ index ::
      shared.map fun n => dir ++ [Module.sharedIndex, n]).Nodup ↔
      components.Nodup ∧ shared.Nodup ∧ (∀ n ∈ components, index ≠ dir ++ [n]) ∧
        ∀ n ∈ shared, index ≠ dir ++ [Module.sharedIndex, n] := by
  have hname : Function.Injective fun n => dir ++ [n] := fun a b h => by simpa using h
  have hshared : Function.Injective fun n => dir ++ [Module.sharedIndex, n] :=
    fun a b h => by simpa using h
  rw [List.nodup_append, List.nodup_cons, List.nodup_map_iff hname, List.nodup_map_iff hshared]
  constructor
  · rintro ⟨hc, ⟨hindex, hs⟩, hdisjoint⟩
    refine ⟨hc, hs, fun n hn h => ?_, fun n hn h => ?_⟩
    · exact hdisjoint _ (List.mem_map_of_mem hn) index List.mem_cons_self h.symm
    · exact hindex (List.mem_map.mpr ⟨n, hn, h.symm⟩)
  · rintro ⟨hc, hs, hindex, hindex'⟩
    refine ⟨hc, ⟨fun hmem => ?_, hs⟩, fun p hp q hq hpq => ?_⟩
    · obtain ⟨n, hn, h⟩ := List.mem_map.mp hmem
      exact hindex' n hn h.symm
    · obtain ⟨n, hn, rfl⟩ := List.mem_map.mp hp
      rcases List.mem_cons.mp hq with rfl | hq
      · exact hindex n hn hpq.symm
      · obtain ⟨n', -, rfl⟩ := List.mem_map.mp hq
        simp at hpq

end Names

/-- After a run from `t` to `t'` every module is in its file. -/
structure AllKept (c : Context) (g : Registry) (m : Metadata) (t t' : FileTree) : Prop where
  components : ∀ w ∈ m.widgets, Kept t (schedule c m) t' (widgetStep c g w)
  index : Kept t (schedule c m) t' (indexStep c g m.widgets)
  shared : ∀ base, c.settings.componentsDir = .str base → ∀ group ∈ groups c.settings m,
    Kept t (schedule c m) t' (groupStep c (Path.child base Module.sharedIndex) group)

theorem IsReport.map_files {r : Report} (h : IsReport c m g r) (here : List String) :
    r.files.map (FileTree.placeOf here) = (schedule c m).filterMap (Step.place? here) := by
  rw [h.files, List.map_filterMap]
  rfl

theorem widgetStep_ne_makeDir (path : String) : widgetStep c g w ≠ .makeDir path := by
  rw [widgetStep]
  split <;> exact Step.noConfusion

theorem indexStep_ne_makeDir {ws : List Widget} (path : String) :
    indexStep c g ws ≠ .makeDir path := by
  rw [indexStep]
  split <;> exact Step.noConfusion

theorem groupStep_ne_makeDir {dir : String} {group : String × Value} (path : String) :
    groupStep c dir group ≠ .makeDir path := by
  rw [groupStep]
  split <;> exact Step.noConfusion

theorem exists_indexFile_eq {ws : List Widget} (h : (indexStep c g ws).Does t t')
    (here : List String) :
    ∃ index, c.settings.indexFile = .str index ∧
      (indexStep c g ws).place? here = some (FileTree.placeOf here index) := by
  rw [indexStep] at h ⊢
  split at h
  · cases h
  · generalize c.settings.indexFile = v at h ⊢
    cases h
    exact ⟨_, rfl, Step.place?_write _ _ _⟩

/-- Where the places of all files are distinct, every module is kept. -/
theorem allKept_of_nodup (hg : Registry.ofList m.types = .ok g) (h : Performed t (schedule c m) t')
    (hdistinct : ((schedule c m).filterMap (Step.place? t.here)).Nodup) : AllKept c g m t t' := by
  have hschedule := schedule_of_registry (c := c) hg
  refine ⟨fun w hw => ?_, ?_, fun base hbase group hgroup => ?_⟩
  · refine h.kept_of_nodup hdistinct ?_ widgetStep_ne_makeDir
    rw [hschedule]
    exact List.mem_append_left _ (List.mem_flatMap.mpr ⟨w, hw, List.mem_cons_self⟩)
  · refine h.kept_of_nodup hdistinct ?_ indexStep_ne_makeDir
    rw [hschedule]
    exact List.mem_append_right _ List.mem_cons_self
  · have hblocked : ∀ e, .blocked e ∉ sharedSteps c m := fun e hmem =>
      h.blocked_not_mem e (hschedule ▸ List.mem_append_right _ (List.mem_cons_of_mem _ hmem))
    refine h.kept_of_nodup hdistinct ?_ groupStep_ne_makeDir
    rw [hschedule, sharedSteps_eq hbase hblocked]
    refine List.mem_append_right _ (List.mem_cons_of_mem _ (List.mem_append_right _ ?_))
    exact List.mem_map_of_mem hgroup

/-- After a run that succeeds, a module is in its file unless a later one has replaced it. Where
all places are distinct, nothing is replaced; and where files are named by single names, their
places are distinct just when the names are and the index has a place of its own. -/
theorem generate_keeps_modules {r : Report} (hr : (generate c m t).2.result = .ok r) :
    (∀ before s after place, schedule c m = before ++ s :: after → s.place? t.here = some place →
      (∀ s' ∈ after, s'.place? t.here ≠ some place) →
      Kept t (schedule c m) (generate c m t).1 s) ∧
    ((r.files.map (FileTree.placeOf t.here)).Nodup →
      r.files.Nodup ∧ ∃ g, Registry.ofList m.types = .ok g ∧ AllKept c g m t (generate c m t).1) ∧
    ∀ base, c.settings.componentsDir = .str base →
      ∃ components shared index, FileNames c.settings m components shared ∧
        c.settings.indexFile = .str index ∧
        ((∀ n ∈ components ++ shared, Path.IsName n) →
          ((r.files.map (FileTree.placeOf t.here)).Nodup ↔
            (components.map Text.systemName).Nodup ∧ (shared.map Text.systemName).Nodup ∧
            (∀ n ∈ components, FileTree.placeOf t.here index ≠
              FileTree.placeOf t.here base ++ [Text.systemName n]) ∧
            ∀ n ∈ shared, FileTree.placeOf t.here index ≠
              FileTree.placeOf t.here base ++ [Module.sharedIndex, Text.systemName n])) := by
  obtain ⟨hp, g, hreport⟩ := performed_of_generate hr
  have hplaces := hreport.map_files t.here
  refine ⟨?last, ?distinct, ?names⟩
  case last =>
    intro before s after place hsplit hplace hlast
    rw [hsplit] at hp ⊢
    exact hp.kept hplace hlast
  case distinct =>
    intro hdistinct
    refine ⟨hdistinct.of_map _, g, hreport.registry, ?_⟩
    rw [hplaces] at hdistinct
    exact allKept_of_nodup hreport.registry hp hdistinct
  case names =>
    intro base hbase
    have hindexStep : indexStep c g m.widgets ∈ schedule c m := by
      rw [schedule_of_registry hreport.registry]
      exact List.mem_append_right _ List.mem_cons_self
    obtain ⟨_, _, hdoes⟩ := hp.does hindexStep
    obtain ⟨index, hindex, hplace⟩ := exists_indexFile_eq hdoes t.here
    obtain ⟨components, shared, hnames, hall⟩ :=
      exists_fileNames hbase hreport.registry hp.blocked_not_mem hplace
    refine ⟨components, shared, index, hnames, hindex, fun hsingle => ?_⟩
    have hcomponents : components.map (fun n => FileTree.placeOf t.here (Path.join base n)) =
        (components.map Text.systemName).map fun n => FileTree.placeOf t.here base ++ [n] := by
      rw [List.map_map]
      exact List.map_congr_left fun n hn =>
        FileTree.placeOf_join_name (hsingle n (List.mem_append_left _ hn)) _ _
    have hshared : shared.map (fun n => FileTree.placeOf t.here
          (Path.child (Path.child base Module.sharedIndex) n)) =
        (shared.map Text.systemName).map fun n =>
          FileTree.placeOf t.here base ++ [Module.sharedIndex, n] := by
      rw [List.map_map]
      refine List.map_congr_left fun n hn => ?_
      rw [FileTree.placeOf_child_name (hsingle n (List.mem_append_right _ hn)),
        FileTree.placeOf_child_name isName_sharedIndex, List.append_assoc]
      rfl
    rw [hplaces, hall, hcomponents, hshared, nodup_places_iff]
    simp only [List.forall_mem_map]

/-- Widgets of these names, and shared exports of these keys. -/
def bareMetadata (names keys : List String) : Metadata where
  widgets := names.map bareWidget
  types := []
  commonReexports := .obj (keys.map fun key => (key, .arr []))

/-- What a run needs for the shared exports, beside the default settings. -/
def sharingContext : Context := ⟨[], .builtIn, .standard, { reexports := .bool true }⟩

theorem exists_report {files : List String}
    (h : (generate c m t).2.result.toOption.map Report.files = some files) :
    ∃ r, (generate c m t).2.result = .ok r ∧ r.files = files := by
  cases hr : (generate c m t).2.result with
  | error e =>
    rw [hr] at h
    cases h
  | ok r =>
    rw [hr] at h
    exact ⟨r, rfl, Option.some.inj h⟩

/-- Two components, the index and a module of shared exports with places of their own. -/
theorem generate_keeps_bare_modules :
    ∃ g, Registry.ofList [] = .ok g ∧
      AllKept sharingContext g (bareMetadata ["dxButton", "dxCheckBox"] ["common"]) bareTree
        (generate sharingContext (bareMetadata ["dxButton", "dxCheckBox"] ["common"])
          bareTree).1 := by
  obtain ⟨r, hr, hfiles⟩ := @exists_report bareTree sharingContext
    (bareMetadata ["dxButton", "dxCheckBox"] ["common"])
    ["src/button.ts", "src/check-box.ts", "src/index.ts", "src/common/index.ts"] (by decide +kernel)
  refine ((generate_keeps_modules hr).2.1 ?_).2
  rw [hfiles]
  decide +kernel

theorem wellFormed_bareWidget (name : String) : (bareWidget name).WellFormed where
  name := Metadata.isText_str name
  options := List.forall_mem_nil _
  nested := by rintro _ ⟨⟩
  children := List.forall_mem_nil _

/-- Names that differ in their marks alone have one file. -/
theorem button_files_not_nodup :
    (bareMetadata ["dxButton", "Button"] []).WellFormed ∧
    (bareMetadata ["dxButton", "Button"] []).widgets.Pairwise (fun w w' => w.name ≠ w'.name) ∧
    ∃ r, (generate sharingContext (bareMetadata ["dxButton", "Button"] []) bareTree).2.result =
      .ok r ∧ ¬ r.files.Nodup := by
  refine ⟨⟨?_, List.forall_mem_nil _, Or.inr ⟨[], rfl, List.forall_mem_nil _⟩⟩, ?_, ?_⟩
  · intro w hw
    obtain ⟨name, -, rfl⟩ := List.mem_map.mp hw
    exact wellFormed_bareWidget name
  · simp [bareMetadata, bareWidget]
  · obtain ⟨r, hr, hfiles⟩ := @exists_report bareTree sharingContext
      (bareMetadata ["dxButton", "Button"] [])
      ["src/button.ts", "src/button.ts", "src/index.ts"] (by decide +kernel)
    refine ⟨r, hr, ?_⟩
    rw [hfiles]
    decide

end VueWrap.Generation
