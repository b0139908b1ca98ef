import VueWrap.Proofs.Generation.Follow

/-! # A run performs a prefix of its schedule

Whatever stops a run, the steps before the failing one have been taken in order
and nothing else has been done. A run that ends well has taken all steps, and
its report names the written files and the entries of the index.
-/

namespace VueWrap.Generation

variable {c : Context} {g : Registry} {m : Metadata} {t : FileTree}

theorem mapM_eq_ok_of_forall₂ {α β : Type} {f : α → Except Failure β} {as : List α} {bs : List β}
    (h : List.Forall₂ (fun a b => f a = .ok b) as bs) : as.mapM f = .ok bs := by
  induction h with
  | nil => rfl
  | cons ha _ ih =>
    rw [List.mapM_cons, ha, ih]
    rfl

theorem writeModule_follows (path : String) (d : Module.Document) :
    Follows (writeModule path d) [.write (.str path) d] fun p => Path.tidy path = p := by
  unfold writeModule
  refine follows_write_bind ?_
  exact follows_bind_of_silent (silent_note _) rfl (follows_pure rfl)

inductive ModuleReport (c : Context) (g : Registry) (w : Widget) : String × Module.Entry → Prop
  | mk {path : String} {comp : Component} {entry : Module.Entry}
      (hm : moduleOf c g w = .ok (path, comp)) (he : entryOf c g w = .ok entry) :
      ModuleReport c g w (Path.tidy path, entry)

theorem widgetPlan_follows (w : Widget) :
    Follows (widgetPlan c g w) (widgetStep c g w :: entrySteps c g w) (ModuleReport c g w) := by
  unfold widgetPlan
  cases hfile : (Mapping.widget c.resolver g (places c.settings) w).result with
  | error e =>
    have hm : moduleOf c g w = .error e := by simp only [moduleOf, hfile]; rfl
    simp only [widgetStep, hm]
    exact follows_bind_of_silent_error (silent_retrace _) hfile
  | ok file =>
    refine follows_bind_of_silent (silent_retrace _) hfile ?_
    cases hdir : asPath c.settings.componentsDir with
    | error e =>
      have hm : moduleOf c g w = .error e := by simp only [moduleOf, hfile, hdir]; rfl
      simp only [widgetStep, hm]
      exact follows_bind_of_silent_error (silent_lift _) rfl
    | ok dir =>
      refine follows_bind_of_silent (silent_lift _) rfl ?_
      have hm : moduleOf c g w = .ok (Path.join dir file.fileName, file.component) := by
        simp only [moduleOf, hfile, hdir]; rfl
      simp only [widgetStep, hm]
      refine (writeModule_follows _ _).bind_cons ?_
      rintro _ rfl
      cases htarget : importPath c.here c.settings.indexFile
          (.str (Path.join dir file.fileName)) with
      | error e =>
        have he : entryOf c g w = .error e := by simp only [entryOf, hm, bind, Except.bind, htarget]
        simp only [entrySteps, he]
        exact follows_bind_of_silent_error (silent_lift _) rfl
      | ok target =>
        have he : entryOf c g w = .ok ⟨.str file.component.name, .str target⟩ := by
          simp only [entryOf, hm, bind, Except.bind, htarget]; rfl
        simp only [entrySteps, he]
        refine follows_bind_of_silent (silent_lift _) rfl (follows_pure ?_)
        exact .mk hm he

theorem indexPlan_follows {ws : List Widget} {entries : List Module.Entry}
    (h : ws.mapM (entryOf c g) = .ok entries) :
    Follows (indexPlan c entries) [indexStep c g ws]
      fun p => (indexStep c g ws).file? = some p := by
  unfold indexPlan
  simp only [indexStep, h]
  cases hi : c.settings.indexFile with
  | str path => exact (writeModule_follows _ _).imp fun p hp => hp ▸ rfl
  | _ => exact follows_render_fail rfl

theorem groupPlan_follows (dir : String) (group : String × Value) :
    Follows (groupPlan c dir group) [groupStep c dir group]
      fun p => (groupStep c dir group).file? = some p := by
  unfold groupPlan
  cases hname : Module.sharedFile (.str group.1) c.settings.extension with
  | error e =>
    simp only [groupStep, hname]
    exact follows_bind_of_silent_error (silent_lift _) rfl
  | ok name =>
    simp only [groupStep, hname]
    refine follows_bind_of_silent (silent_lift _) rfl ?_
    exact (writeModule_follows _ _).imp fun p hp => hp ▸ rfl

theorem filterMap_file?_flatMap {α β : Type} {steps : α → List Step} {p : β → String}
    {rel : α → β → Prop} (hrel : ∀ a b, rel a b → (steps a).filterMap Step.file? = [p b])
    {as : List α} {bs : List β} (h : List.Forall₂ rel as bs) :
    (as.flatMap steps).filterMap Step.file? = bs.map p := by
  induction h with
  | nil => rfl
  | cons hab _ ih =>
    rw [List.flatMap_cons, List.filterMap_append, hrel _ _ hab, ih]
    rfl

theorem sharedPlan_follows :
    Follows (sharedPlan c m) (sharedSteps c m)
      fun ps => (sharedSteps c m).filterMap Step.file? = ps := by
  unfold sharedPlan sharedSteps
  split
  · cases hbase : asPath c.settings.componentsDir with
    | error e => exact follows_bind_of_silent_error (silent_lift _) rfl
    | ok base =>
      refine follows_bind_of_silent (silent_lift _) rfl (follows_makeDir_bind ?_)
      cases hgroups : Metadata.fields m.commonReexports with
      | error e => exact follows_bind_of_silent_error (silent_lift _) rfl
      | ok groups =>
        refine follows_bind_of_silent (silent_lift _) rfl ?_
        have h := follows_each (groupPlan_follows (c := c) (Path.child base Module.sharedIndex))
          groups
        rw [← List.map_eq_flatMap] at h
        refine h.imp fun ps hps => ?_
        show List.filterMap Step.file? (_ :: groups.map _) = ps
        rw [List.filterMap_cons_none rfl, List.map_eq_flatMap]
        refine (filterMap_file?_flatMap (p := id) ?_ hps).trans (List.map_id ps)
        intro group p hp
        exact List.filterMap_cons_some hp
  · exact follows_pure rfl

theorem mapM_entryOf_of_reports {ws : List Widget} {rs : List (String × Module.Entry)}
    (h : List.Forall₂ (ModuleReport c g) ws rs) :
    ws.mapM (entryOf c g) = .ok (rs.map (·.2)) := by
  apply mapM_eq_ok_of_forall₂
  rw [List.forall₂_map_right_iff]
  refine h.imp ?_
  rintro w _ ⟨-, he⟩
  exact he

theorem files_of_reports {ws : List Widget} {rs : List (String × Module.Entry)}
    (h : List.Forall₂ (ModuleReport c g) ws rs) :
    (ws.flatMap fun w => widgetStep c g w :: entrySteps c g w).filterMap Step.file? =
      rs.map (·.1) := by
  refine filterMap_file?_flatMap ?_ h
  rintro w _ ⟨hm, he⟩
  simp only [widgetStep, entrySteps, hm, he]
  rfl

/-- The report of a run that takes all steps: the files in the order of the steps, and one entry
of the index for every widget. -/
structure IsReport (c : Context) (m : Metadata) (g : Registry) (r : Report) : Prop where
  registry : Registry.ofList m.types = .ok g
  files : r.files = (schedule c m).filterMap Step.file?
  entries : m.widgets.mapM (entryOf c g) = .ok r.entries
  widgetCount : r.widgetCount = m.widgets.length
  typeCount : r.typeCount = g.size
  version : r.version = c.settings.version
  componentsDir : r.componentsDir = c.settings.componentsDir

theorem plan_follows (c : Context) (m : Metadata) :
    Follows (plan c m) (schedule c m) fun r => ∃ g, IsReport c m g r := by
  unfold plan
  cases hg : Registry.ofList m.types with
  | error e =>
    rw [schedule, hg]
    exact follows_bind_of_silent_error (silent_lift _) rfl
  | ok g =>
    rw [schedule_of_registry hg]
    refine follows_bind_of_silent (silent_lift _) rfl ?_
    refine follows_bind_of_silent (silent_note _) rfl ?_
    refine (follows_each (widgetPlan_follows (c := c) (g := g)) m.widgets).bind fun rs hrs => ?_
    have hentries := mapM_entryOf_of_reports hrs
    refine (indexPlan_follows hentries).bind_cons fun index hindex => ?_
    rw [← List.append_nil (sharedSteps c m)]
    refine sharedPlan_follows.bind fun shared hshared => follows_pure ⟨g, ?_⟩
    refine ⟨hg, ?_, hentries, rfl, rfl, rfl, rfl⟩
    rw [schedule_of_registry hg, List.filterMap_append, files_of_reports hrs,
      List.filterMap_cons_some hindex, hshared]

theorem performed_of_generate {r : Report} (hr : (generate c m t).2.result = .ok r) :
    Performed t (schedule c m) (generate c m t).1 ∧ ∃ g, IsReport c m g r := by
  obtain ⟨htree, hresult⟩ := generate_eq_exec c m t
  have h := plan_follows c m t
  rw [hresult] at hr
  rw [htree]
  generalize exec t (plan c m) = run at h hr
  cases h with
  | done hp hreport =>
    cases hr
    exact ⟨hp, hreport⟩
  | stopped _ => cases hr

theorem stopped_of_generate {e : Failure} (he : (generate c m t).2.result = .error e) :
    Stopped t (schedule c m) (generate c m t).1 e := by
  obtain ⟨htree, hresult⟩ := generate_eq_exec c m t
  have h := plan_follows c m t
  rw [hresult] at he
  rw [htree]
  generalize exec t (plan c m) = run at h he
  cases h with
  | done _ _ => cases he
  | stopped hs =>
    cases he
    exact hs

/-- A run takes the first steps of its schedule. It succeeds when these are all of them, and
otherwise fails as the next step does. That step changes nothing, unless it finds its file open
when its text turns out to have no bytes. -/
theorem generate_performs_prefix (c : Context) (m : Metadata) (t : FileTree) :
    ∃ done rest t₁, schedule c m = done ++ rest ∧ Performed t done t₁ ∧
      (∀ place, t₁.entry? place ≠ t.entry? place →
        ∃ s ∈ done, ∃ path, s.path? = some path ∧ place = FileTree.placeOf t.here path) ∧
      match (generate c m t).2.result with
      | .ok r => rest = [] ∧ (generate c m t).1 = t₁ ∧ ∃ g, IsReport c m g r
      | .error e => ∃ s later, rest = s :: later ∧ s.Fails t₁ (generate c m t).1 e ∧
        (e ≠ .unencodable → (generate c m t).1 = t₁) := by
  obtain ⟨htree, hresult⟩ := generate_eq_exec c m t
  obtain ⟨done, rest, t₁, hsplit, hp, hends⟩ := (plan_follows c m t).performed
  rw [htree, hresult]
  refine ⟨done, rest, t₁, hsplit, hp, fun _ => hp.changed, ?_⟩
  cases hr : (exec t (plan c m)).2 with
  | ok r =>
    rw [hr] at hends
    exact hends
  | error e =>
    rw [hr] at hends
    obtain ⟨s, later, hrest, hf⟩ := hends
    exact ⟨s, later, hrest, hf, hf.eq_of_ne⟩

def bareWidget (name : String) : Widget where
  name := .str name
  exportPath := .str ""
  options := []
  isExtension := .bool false
  isEditor := .bool false
  typeParams := []
  nested := none
  children := []
  reexports := []

/-- A tree with nothing but the directory of the modules. -/
def bareTree : FileTree := ⟨[], [(["src"], .dir)]⟩

/-- A widget from a path that is half of a surrogate pair. -/
def halfWidget : Widget :=
  { bareWidget "dxButton" with
    exportPath := .str (String.ofList (Text.Point.half 0xd800).chars) }

/-- What the first step leaves is not what any number of steps lead to. -/
theorem generate_empties_half_module :
    ∃ e, (generate ⟨[], .builtIn, .standard, .defaults⟩ ⟨[halfWidget], [], .null⟩
        bareTree).2.result = .error e ∧ (∀ e', e ≠ .generation e') ∧
      ¬ ∃ done rest,
        schedule ⟨[], .builtIn, .standard, .defaults⟩ ⟨[halfWidget], [], .null⟩ = done ++ rest ∧
        Performed bareTree done (generate ⟨[], .builtIn, .standard, .defaults⟩
          ⟨[halfWidget], [], .null⟩ bareTree).1 := by
  obtain ⟨text, later, hschedule, hbytes⟩ : ∃ text later,
      schedule ⟨[], .builtIn, .standard, .defaults⟩ ⟨[halfWidget], [], .null⟩ =
        .write (.str "src/button.ts") (.text text) :: later ∧ Text.bytes? text = none :=
    ⟨_, _, rfl, Option.isNone_iff_eq_none.mp (by decide +kernel)⟩
  have hnever : ∀ t' ss,
      ¬ Performed bareTree (.write (.str "src/button.ts") (.text text) :: ss) t' :=
    fun t' ss hp => hp.bytes?_ne_none hbytes
  cases hr : (generate ⟨[], .builtIn, .standard, .defaults⟩ ⟨[halfWidget], [], .null⟩
      bareTree).2.result with
  | ok r => exact absurd (hschedule ▸ (performed_of_generate hr).1) (hnever _ _)
  | error e =>
    obtain ⟨done, s, rest, t₁, hsplit, hp, hfails⟩ := stopped_of_generate hr
    cases done with
    | cons s' done =>
      rw [hschedule] at hsplit
      cases hsplit
      exact absurd hp (hnever _ _)
    | nil =>
      rw [hschedule] at hsplit ⊢
      cases hsplit
      cases hp
      cases hfails with
      | emptied _ _ hw =>
        refine ⟨_, rfl, nofun, ?_⟩
        rintro ⟨done, rest, hsplit, hp⟩
        have hfile := FileTree.entry?_of_write hw
        cases done with
        | nil =>
          generalize (generate _ _ _).1 = t' at hp hfile
          cases hp
          cases hfile
        | cons s done =>
          cases hsplit
          exact hnever _ _ hp

end VueWrap.Generation
