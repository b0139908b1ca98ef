import VueWrap.Proofs.Generation.ImportPath
import VueWrap.Proofs.Generation.Overwrite
import VueWrap.Proofs.Mapping.Parts
import VueWrap.Proofs.Module.Renders

/-! # What can stop a run

A refusal of the system is to be all that stops the generation of a valid
document, and for most documents it is. All steps of the schedule have a place to
go; a module without a name of its own would be written over the working
directory, which is refused, so the run does not get as far as its entry in the
index. But a text may hold what no path or no file can take: a zero character,
half of a surrogate pair, or an integer with too many digits where it comes from.
-/

namespace VueWrap

open Metadata

/-- Paths, the package and the extension are texts, and modules are rendered for the version. -/
structure Settings.Usable (s : Settings) : Prop where
  componentsDir : IsText s.componentsDir
  indexFile : IsText s.indexFile
  extension : IsText s.extension
  basePath : IsText s.basePath
  configPath : IsText s.configPath
  package : IsText s.package
  version : s.version = .int 2 ∨ s.version = .int 3

theorem Settings.Usable.isSome_version {s : Settings} (h : s.Usable) :
    (Module.VueVersion.of? s.version).isSome := by
  rcases h.version with hv | hv <;> rw [hv] <;> decide

theorem usable_defaults : Settings.defaults.Usable where
  componentsDir := isText_str _
  indexFile := isText_str _
  extension := isText_str _
  basePath := isText_str _
  configPath := isText_str _
  package := isText_str _
  version := Or.inr rfl

namespace Generation

variable {t t' : FileTree} {s : Step} {e : Failure} {o : Obstacle} {path : String}
  {text : List Char} {bytes : ByteArray} {ss rest : List Step}

/-- The failure reports what the system refuses to do in the tree. -/
inductive IsRefusal (t : FileTree) : Failure → Prop
  | write {path : String} {bytes : ByteArray} {cause : Cause}
      (h : t.write path bytes = .error (.refused cause)) :
      IsRefusal t (.generation (.unwritable path cause))
  | makeDir {path : String} {cause : Cause} (h : t.makeDir path = .error (.refused cause)) :
      IsRefusal t (.generation (.noDirectory path cause))

/-- The document of a component with a value that cannot be written. -/
def unrendered : Module.Document := .rendered Module.componentTemplate false none

/-- What keeps a step from being taken in any tree, though the system refuses nothing: its path has
a zero character or cannot be that of a file, its text has no bytes, or there is none. -/
inductive Step.IsStray : Step → Failure → Prop
  | zero {s : Step} {path : String} (hpath : s.path? = some path)
      (h : Char.ofNat 0 ∈ path.toList) : IsStray s .badContent
  | half {s : Step} {path : String} (hpath : s.path? = some path)
      (h : Text.isNameable path = false) : IsStray s .unencodable
  | noBytes {path : String} {text : List Char} (h : Text.bytes? text = none) :
      IsStray (.write (.str path) (.text text)) .unencodable
  | noText {path : String} : IsStray (.write (.str path) unrendered)
      (.template (.unrenderable Module.componentTemplate))

/-- The system refuses something in the tree, or one of the steps cannot be taken in any. -/
def Excused (t : FileTree) (ss : List Step) (e : Failure) : Prop :=
  IsRefusal t e ∨ ∃ s ∈ ss, s.IsStray e

theorem Excused.mono {ss' : List Step} (h : Excused t ss e) (hss : ∀ s ∈ ss, s ∈ ss') :
    Excused t ss' e :=
  h.imp_right fun ⟨s, hs, hstray⟩ => ⟨s, hss s hs, hstray⟩

/-- An obstacle that is no refusal lies in the path of the step. -/
theorem Step.isStray_of_obstacle (hpath : s.path? = some path)
    (h : FileTree.obstacle? path = some o) (ho : ∀ cause, o ≠ .refused cause)
    (told : Cause → Failure) : s.IsStray (.ofObstacle told o) := by
  unfold FileTree.obstacle? at h
  split at h
  · rename_i hname
    cases h
    exact .half hpath (by simpa using hname)
  · split at h
    · rename_i hzero
      cases h
      exact .zero hpath hzero
    · split at h
      · cases h
        exact absurd rfl (ho _)
      · cases h

theorem excused_of_obstacle {told : Cause → Failure} (hpath : s.path? = some path)
    (hrefused : ∀ cause, o = .refused cause → IsRefusal t (told cause))
    (hstray : (∀ cause, o ≠ .refused cause) → FileTree.obstacle? path = some o) :
    Excused t [s] (.ofObstacle told o) := by
  by_cases ho : ∃ cause, o = .refused cause
  · obtain ⟨cause, rfl⟩ := ho
    exact Or.inl (hrefused cause rfl)
  · have ho := not_exists.mp ho
    exact Or.inr ⟨s, List.mem_singleton_self s,
      Step.isStray_of_obstacle hpath (hstray ho) ho told⟩

/-- Steps that have a text and a place to go. What comes after one that is never taken, as it has
no text or would write over the working directory, does not matter. -/
inductive Ready : List Step → Prop
  | nil : Ready []
  | write {path : String} {text : List Char} {ss : List Step} (h : Ready ss) :
      Ready (.write (.str path) (.text text) :: ss)
  | writeHere {text : List Char} {ss : List Step} :
      Ready (.write (.str "") (.text text) :: ss)
  | unrendered {path : String} {ss : List Step} : Ready (.write (.str path) unrendered :: ss)
  | makeDir {path : String} {ss : List Step} (h : Ready ss) : Ready (.makeDir path :: ss)

theorem excused_of_write_fails (h : (Step.write (.str path) (.text text)).Fails t t' e) :
    Excused t' [.write (.str path) (.text text)] e := by
  cases h with
  | unrendered hd => cases hd
  | unnamed _ ht => cases ht
  | emptied hd hb =>
    cases hd
    exact Or.inr ⟨_, List.mem_singleton_self _, .noBytes hb⟩
  | unwritable _ hw =>
    exact excused_of_obstacle rfl (fun _ ho => .write (ho ▸ hw)) (FileTree.obstacle?_of_write hw)

theorem excused_of_makeDir_fails (h : (Step.makeDir path).Fails t t' e) :
    Excused t' [.makeDir path] e := by
  cases h with
  | noDirectory hm =>
    exact excused_of_obstacle rfl (fun _ ho => .makeDir (ho ▸ hm))
      (FileTree.obstacle?_of_makeDir hm)

theorem excused_of_unrendered_fails (h : (Step.write (.str path) unrendered).Fails t t' e) :
    Excused t' [.write (.str path) unrendered] e := by
  have hlook : ∀ text, unrendered.look t ≠ .ok text := nofun
  cases h with
  | unrendered hd =>
    cases hd
    exact Or.inr ⟨_, List.mem_singleton_self _, .noText⟩
  | unnamed hd => exact absurd hd (hlook _)
  | unwritable hd => exact absurd hd (hlook _)
  | emptied hd => exact absurd hd (hlook _)

theorem not_does_unrendered : ¬ (Step.write (.str path) unrendered).Does t t' := by
  intro h
  cases h with
  | write hd => cases hd

theorem placeOf_tidy_empty (here : List String) :
    FileTree.placeOf here (Path.tidy "") = here := by
  have habs : Path.isAbsolute "" = false := by decide
  rw [FileTree.placeOf_tidy]
  simp [FileTree.placeOf, habs]

theorem not_does_writeHere (hdir : t.entry? t.here = some .dir) :
    ¬ (Step.write (.str "") (.text text)).Does t t' := by
  intro h
  cases h with
  | write _ _ hw =>
    apply (FileTree.write_eq_ok hw).1
    rw [placeOf_tidy_empty, hdir]

/-- Where steps are ready, only the system or what is in one of them stops them. -/
theorem Ready.excused (h : Ready ss) (hdir : t.entry? t.here = some .dir)
    (hs : Stopped t ss t' e) : Excused t' ss e := by
  obtain ⟨done, s, later, t₁, rfl, hp, hf⟩ := hs
  have hmem : ∀ s' ∈ [s], s' ∈ done ++ s :: later := fun s' hs' =>
    List.mem_append_right _ (List.mem_singleton.mp hs' ▸ List.mem_cons_self)
  suffices hfailed : Excused t' [s] e from hfailed.mono hmem
  clear hmem
  induction done generalizing t with
  | nil =>
    cases hp
    rw [List.nil_append] at h
    cases h with
    | write => exact excused_of_write_fails hf
    | writeHere => exact excused_of_write_fails hf
    | unrendered => exact excused_of_unrendered_fails hf
    | makeDir => exact excused_of_makeDir_fails hf
  | cons s' done ih =>
    cases hp with
    | cons hdoes hp =>
      rw [List.cons_append] at h
      have hdir' := hdoes.here_eq ▸ hdoes.isDir hdir
      cases h with
      | write h => exact ih hdir' h hp
      | writeHere => exact absurd hdoes (not_does_writeHere hdir)
      | unrendered => exact absurd hdoes not_does_unrendered
      | makeDir h => exact ih hdir' h hp

theorem givesOnly_entryOf (c : Context) (g : Registry) (w : Widget) :
    GivesOnly (entryOf c g w) fun e => IsText e.name ∧ IsText e.path := by
  refine GivesOnly.bind_of_forall fun m => ?_
  refine GivesOnly.bind_of_forall fun target => ?_
  exact givesOnly_ok ⟨isText_str _, isText_str _⟩

/-- The texts are those of the renderer, and the types and settings are of the kinds they need. -/
structure Context.Usable (c : Context) : Prop where
  templates : c.templates = .builtIn
  resolver : c.resolver.Textual
  settings : c.settings.Usable

section Schedule

variable {c : Context} {g : Registry} {m : Metadata} {w : Widget} {ws : List Widget}
  (hc : c.Usable)
include hc

theorem gives_moduleOf (hg : g.WellFormed) (hw : w.WellFormed) (hpath : IsText w.exportPath) :
    Gives (moduleOf c g w) fun p => p.2.Textual ∧ p.2.Joinable := by
  obtain ⟨dir, hdir⟩ := hc.settings.componentsDir.exists_eq
  refine (Mapping.gives_joinable hc.resolver hg _ hw hpath).bind fun file hfile => ?_
  rw [hdir]
  exact gives_ok_iff.mpr hfile

theorem exists_widgetStep_eq (hg : g.WellFormed) (hw : w.WellFormed) (hpath : IsText w.exportPath) :
    ∃ path comp d, moduleOf c g w = .ok (path, comp) ∧ widgetStep c g w = .write (.str path) d ∧
      ((∃ text, d = .text text) ∨ d = unrendered) := by
  obtain ⟨⟨path, comp⟩, hm, hcomp, hjoins⟩ := gives_moduleOf hc hg hw hpath
  obtain ⟨cs, hd⟩ := Module.exists_componentDocument_eq c.settings.reexports hc.settings.package
    hc.settings.isSome_version hcomp hjoins
  refine ⟨path, comp, _, hm, ?_, Module.Document.rendered_cases comp.isWritable cs⟩
  rw [widgetStep, hm, hc.templates]
  exact congrArg _ hd

theorem succeeds_entryOf {path : String} {comp : Component} (hm : moduleOf c g w = .ok (path, comp))
    (hpath : path ≠ "") : Succeeds (entryOf c g w) := by
  obtain ⟨index, hindex⟩ := hc.settings.indexFile.exists_eq
  have himport := importPath_of_ne_empty c.here index hpath
  rw [entryOf, hm, hindex]
  refine succeeds_bind_iff.mpr (gives_ok_iff.mpr ?_)
  exact succeeds_bind_iff.mpr ⟨_, himport, succeeds_pure _⟩

/-- The modules of the widgets are ready, and what follows them has to be so where all of them have
entries in the index. -/
theorem ready_widgets (hg : g.WellFormed) (hws : ∀ w ∈ ws, w.WellFormed ∧ IsText w.exportPath)
    (hrest : (∀ w ∈ ws, Succeeds (entryOf c g w)) → Ready rest) :
    Ready (ws.flatMap (fun w => widgetStep c g w :: entrySteps c g w) ++ rest) := by
  induction ws with
  | nil => exact hrest fun _ hw => absurd hw List.not_mem_nil
  | cons w ws ih =>
    rw [List.forall_mem_cons] at hws
    obtain ⟨path, comp, d, hm, hstep, hd⟩ := exists_widgetStep_eq hc hg hws.1.1 hws.1.2
    rw [List.flatMap_cons, hstep]
    rcases hd with ⟨text, rfl⟩ | rfl
    · by_cases hpath : path = ""
      · rw [hpath]
        exact .writeHere
      · have hentry := succeeds_entryOf hc hm hpath
        have hnil : entrySteps c g w = [] := by
          obtain ⟨entry, he⟩ := hentry
          rw [entrySteps, he]
        rw [hnil]
        refine .write (ih hws.2 fun h => hrest ?_)
        exact List.forall_mem_cons.mpr ⟨hentry, h⟩
    · exact .unrendered

theorem ready_indexStep (hws : ∀ w ∈ ws, Succeeds (entryOf c g w)) (h : Ready rest) :
    Ready (indexStep c g ws :: rest) := by
  obtain ⟨entries, hentries⟩ := succeeds_mapM_iff.mpr hws
  obtain ⟨index, hindex⟩ := hc.settings.indexFile.exists_eq
  have htexts := givesOnly_mapM (fun w _ => givesOnly_entryOf c g w) entries hentries
  obtain ⟨text, htext⟩ := (Module.isText_indexDocument htexts).exists_eq
  rw [indexStep, hentries]
  simp only [hindex, hc.templates, htext]
  exact .write h

theorem ready_groupSteps (dir : String) {groups : Fields} (h : Valid.Groups groups) :
    Ready (groups.map (groupStep c dir)) := by
  induction groups with
  | nil => exact .nil
  | cons group groups ih =>
    obtain ⟨hgroup, hgroups⟩ := List.forall_mem_cons.mp h
    obtain ⟨name, hname⟩ := Module.succeeds_sharedFile group.1 c.settings.extension
    obtain ⟨text, htext⟩ :=
      (Module.isText_sharedDocument hc.settings.package (isText_str group.1) hgroup).exists_eq
    rw [List.map_cons, groupStep, hname]
    simp only [hc.templates, htext]
    exact .write (ih hgroups)

theorem ready_sharedSteps (hm : m.WellFormed) : Ready (sharedSteps c m) := by
  obtain ⟨base, hbase⟩ := hc.settings.componentsDir.exists_eq
  rw [sharedSteps]
  split
  · rename_i hwants
    rcases hm.commonReexports with hnull | ⟨groups, hgroups, hvalid⟩
    · simp [wantsShared, hnull, Value.holds, Value.isEmpty] at hwants
    · rw [hbase, hgroups]
      exact .makeDir (ready_groupSteps hc _ hvalid)
  · exact .nil

theorem ready_schedule (hm : m.HasPaths) : Ready (schedule c m) := by
  obtain ⟨g, hg, hwf⟩ := Registry.gives_ofList hm.types
  rw [schedule_of_registry hg]
  refine ready_widgets hc hwf (fun w hw => ⟨hm.widgets w hw, hm.paths w hw⟩) fun hentries => ?_
  exact ready_indexStep hc hentries (ready_sharedSteps hc hm.toWellFormed)

theorem excused_of_generate (hm : m.HasPaths) (hdir : t.entry? t.here = some .dir)
    (h : (generate c m t).2.result = .error e) :
    Excused (generate c m t).1 (schedule c m) e :=
  (ready_schedule hc hm).excused hdir (stopped_of_generate h)

end Schedule

/-- All modules of the metadata can be written down where the values in them can, and where a run
fails, the system has refused to write one of them or to make their directory, or a step of the run
cannot be taken in any tree. -/
structure Generates (s : Settings) (m : Metadata) : Prop where
  components : ∃ g, Registry.ofList m.types = .ok g ∧ ∀ w ∈ m.widgets,
    Gives (Mapping.widget .standard g (places s) w).result fun file =>
      (Module.componentDocument .builtIn s.package s.version s.reexports file.component).IsText ↔
        file.component.isWritable = true
  index : ∀ entries : List Module.Entry, (∀ e ∈ entries, IsText e.name ∧ IsText e.path) →
    (Module.indexDocument .builtIn entries).IsText
  shared : ∀ groups, m.commonReexports = .obj groups → ∀ group ∈ groups,
    Succeeds (Module.sharedFile (.str group.1) s.extension) ∧
      (Module.sharedDocument .builtIn s.package (.str group.1) group.2).IsText
  run : ∀ t : FileTree, t.entry? t.here = some .dir → ∀ e,
    (generate ⟨t.here, .builtIn, .standard, s⟩ m t).2.result = .error e →
      Excused (generate ⟨t.here, .builtIn, .standard, s⟩ m t).1
        (schedule ⟨t.here, .builtIn, .standard, s⟩ m) e

theorem generates_of_hasPaths {s : Settings} {m : Metadata} (hs : s.Usable)
    (hm : m.HasPaths) : Generates s m where
  components := by
    obtain ⟨g, hg, hwf⟩ := Registry.gives_ofList hm.types
    refine ⟨g, hg, fun w hw => ?_⟩
    have hwidget := Mapping.gives_joinable Resolver.textual_standard hwf (places s)
      (hm.widgets w hw) (hm.paths w hw)
    refine hwidget.imp fun file hfile => ?_
    obtain ⟨cs, hd⟩ := Module.exists_componentDocument_eq s.reexports hs.package hs.isSome_version
      hfile.1 hfile.2
    rw [hd, Module.Document.isText_rendered_iff]
  index _ := Module.isText_indexDocument
  shared := by
    intro groups hgroups group hgroup
    rcases hm.commonReexports with hnull | ⟨fs, hfs, hvalid⟩
    · rw [hnull] at hgroups
      cases hgroups
    · rw [hfs] at hgroups
      cases hgroups
      exact ⟨Module.succeeds_sharedFile _ _,
        Module.isText_sharedDocument hs.package (isText_str _) (hvalid group hgroup)⟩
  run := by
    intro t hdir e
    exact excused_of_generate ⟨rfl, Resolver.textual_standard, hs⟩ hm hdir

/-- A valid document makes no stage fail: it is read, mapped and rendered where its integers are not
too long, and only the system, or a text that no path or no file can have, can keep its modules from
being written. -/
theorem exists_generates_of_valid {document : Value} {s : Settings}
    (hdocument : Object Valid.DocumentFields document) (hs : s.Usable) (source : String) :
    ∃ m, Source.build document source = .ok m ∧ Generates s m :=
  (Source.gives_build hdocument source).imp fun _ => generates_of_hasPaths hs

/-- Types that lead back to themselves and to nothing, and empty names and lists. -/
def loopDocument : Value := .obj [
  ("widgets", .arr [.obj [
    ("name", .str ""),
    ("options", .arr [.obj [("name", .str "key")], .obj [
      ("name", .str ""),
      ("types", .arr [.obj [("type", .str "Loop"), ("acceptableValues", .arr [])]])]]),
    ("complexOptions", .arr [.obj [("name", .str ""), ("optionName", .str "")]]),
    ("reexports", .null)]]),
  ("customTypes", .arr [.obj [
    ("name", .str "Loop"),
    ("types", .arr [.obj [("type", .str "Loop")], .obj [("type", .str "Nowhere")]])]]),
  ("commonReexports", .obj [("common", .arr [])])]

theorem exists_generates_loopDocument :
    ∃ m, Source.build loopDocument "loop.json" = .ok m ∧ Generates .defaults m := by
  apply exists_generates_of_valid
  · simp [loopDocument, Valid.documentFields_iff, Valid.widgetFields_iff, Valid.optionFields_iff,
      Valid.typeRefFields_iff, Valid.nestedFields_iff, Valid.typeFields_iff, Valid.Groups]
  · exact usable_defaults

/-- A name that no file can have. -/
def zeroDocument : Value :=
  .obj [("widgets", .arr [.obj [("name", .str (String.ofList ['d', 'x', Char.ofNat 0]))]])]

/-- The failure is none of the generation. -/
theorem exists_generate_zeroDocument_eq_error :
    Object Valid.DocumentFields zeroDocument ∧ Settings.defaults.Usable ∧
      ∃ m, Source.build zeroDocument "m.json" = .ok m ∧
        ∃ e, (generate ⟨[], .builtIn, .standard, .defaults⟩ m bareTree).2.result = .error e ∧
          ∀ e', e ≠ .generation e' := by
  have hvalid : Object Valid.DocumentFields zeroDocument := by
    simp [zeroDocument, Valid.documentFields_iff, Valid.widgetFields_iff]
  exact ⟨hvalid, usable_defaults, _, rfl, .badContent, rfl, nofun⟩

end Generation

end VueWrap
