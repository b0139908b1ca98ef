import VueWrap.Proofs.FileTree.Below
import VueWrap.Proofs.Generation.Again
import VueWrap.Proofs.Generation.Refusal
import VueWrap.Proofs.Module.SharedFile

/-! # Which shared exports get modules

The directory of the shared exports is made, and no directory below it. So where
the modules of the components and the index have been written, the run ends well
just when every key of the shared exports names a file of that directory, its
module has bytes, and nothing stands in the place of the directory; then each of
these files has the module of its key.
-/

namespace VueWrap.Generation

open VueWrap.Module (IsKey)
open FileTree (IsFlat Fits)

variable {t t₁ t' : FileTree} {s : Step} {ss ss' : List Step} {place : List String}
  {c : Context} {g : Registry} {m : Metadata} {dir base : String} {group : String × Value}
  {gs : List (String × Value)} {bytes : ByteArray}

def moduleSteps (c : Context) (g : Registry) (m : Metadata) : List Step :=
  m.widgets.flatMap (fun w => widgetStep c g w :: entrySteps c g w) ++ [indexStep c g m.widgets]

def sharedDir (base : String) : String := Path.child base Module.sharedIndex

theorem schedule_eq_append (hg : Registry.ofList m.types = .ok g) :
    schedule c m = moduleSteps c g m ++ sharedSteps c m := by
  rw [schedule_of_registry hg, moduleSteps, List.append_assoc, List.singleton_append]

theorem ne_makeDir_of_mem_moduleSteps (hs : s ∈ moduleSteps c g m) (path : String) :
    s ≠ .makeDir path := by
  rcases List.mem_append.mp hs with hs | hs
  · obtain ⟨w, -, hs⟩ := List.mem_flatMap.mp hs
    rcases List.mem_cons.mp hs with rfl | hs
    · exact widgetStep_ne_makeDir path
    · unfold entrySteps at hs
      split at hs
      · rw [List.mem_singleton.mp hs]
        exact Step.noConfusion
      · cases hs
  · rw [List.mem_singleton.mp hs]
    exact indexStep_ne_makeDir path

/-- A run ends well just when all of its steps can be taken. -/
theorem succeeds_generate_iff :
    Succeeds (generate c m t).2.result ↔ ∃ t', Performed t (schedule c m) t' := by
  constructor
  · rintro ⟨r, hr⟩
    exact ⟨_, (performed_of_generate hr).1⟩
  · rintro ⟨t', hp⟩
    obtain ⟨r, hr⟩ := (plan_follows c m).exec_of_performed hp
    exact ⟨r, (generate_eq_exec c m t).2.trans (congrArg Prod.snd hr)⟩

theorem succeeds_generate_iff_of_performed (hg : Registry.ofList m.types = .ok g)
    (h : Performed t (moduleSteps c g m) t₁) :
    Succeeds (generate c m t).2.result ↔ ∃ t', Performed t₁ (sharedSteps c m) t' := by
  rw [succeeds_generate_iff, schedule_eq_append hg]
  constructor
  · rintro ⟨t', hp⟩
    obtain ⟨t₂, hfront, hrest⟩ := hp.exists_of_append
    rw [h.unique hfront]
    exact ⟨t', hrest⟩
  · rintro ⟨t', hp⟩
    exact ⟨t', h.append hp⟩

theorem Step.Does.isDir_of_isDir (h : s.Does t t') (hs : ∀ path, s ≠ .makeDir path)
    (hd : t'.entry? place = some .dir) : t.entry? place = some .dir := by
  cases h with
  | write _ _ hw => exact FileTree.isDir_of_write_isDir hw hd
  | makeDir => exact absurd rfl (hs _)

theorem Performed.isDir_of_isDir (h : Performed t ss t') (hss : ∀ s ∈ ss, ∀ path, s ≠ .makeDir path)
    (hd : t'.entry? place = some .dir) : t.entry? place = some .dir := by
  induction h with
  | nil => exact hd
  | cons hs _ ih =>
    rw [List.forall_mem_cons] at hss
    exact hs.isDir_of_isDir hss.1 (ih hss.2 hd)

/-- Where nothing was before, nothing is just when no module goes there. -/
theorem Performed.entry?_eq_none_iff (h : Performed t ss t')
    (hss : ∀ s ∈ ss, ∀ path, s ≠ .makeDir path) (hnone : t.entry? place = none) :
    t'.entry? place = none ↔ ∀ s ∈ ss, s.place? t.here ≠ some place := by
  constructor
  · intro hnone' s hs hplace
    obtain ⟨before, after, rfl⟩ := List.append_of_mem hs
    obtain ⟨t₁, t₂, hbefore, hdoes, hafter⟩ := h.split
    cases hdoes with
    | makeDir => exact hss _ hs _ rfl
    | write _ _ hw =>
      rw [Step.place?_write, Option.some_inj, ← FileTree.placeOf_tidy, ← hbefore.here_eq] at hplace
      obtain ⟨bytes, hfile⟩ := hafter.isFile ⟨_, FileTree.entry?_of_write hw⟩
      rw [hplace, hnone'] at hfile
      cases hfile
  · intro hne
    by_contra hsome
    rw [← hnone] at hsome
    obtain ⟨s, hs, path, hpath, hplace⟩ := h.changed hsome
    cases s with
    | makeDir path => exact hss _ hs _ rfl
    | blocked e => cases hpath
    | write target d =>
      apply hne _ hs
      rw [Step.place?, show Step.file? _ = some path from hpath, Option.map_some, hplace]

theorem Performed.isFlat (h : Performed t ss t') (hss : ∀ s ∈ ss, ∀ path, s ≠ .makeDir path)
    (hflat : t.IsFlat dir place) : t'.IsFlat dir place := by
  induction h with
  | nil => exact hflat
  | cons hs _ ih =>
    rw [List.forall_mem_cons] at hss
    cases hs with
    | makeDir => exact absurd rfl (hss.1 _)
    | write _ _ hw => exact ih hss.2 (hflat.write hw)

def groupText (c : Context) (group : String × Value) (names : List Value) : List Char :=
  Module.shared c.settings.package (.str group.1) names

/-- The group has a key and a list of names. -/
structure IsGroup (group : String × Value) : Prop where
  key : IsKey group.1
  names : Metadata.ListOf Metadata.IsText group.2

/-- The module of the group can be a file of the directory. -/
structure HasModule (c : Context) (dir : String) (group : String × Value) : Prop where
  fits : Gives (Module.sharedFile (.str group.1) c.settings.extension) (Fits dir)
  bytes : ∃ names bytes, group.2.items? = some names ∧
    Text.bytes? (groupText c group names) = some bytes

section Groups

variable (hc : c.Usable)
include hc

theorem exists_groupStep_eq (hgroup : IsGroup group) (dir : String) :
    ∃ stem extension names, IsKey stem ∧ c.settings.extension = .str extension ∧
      Module.sharedFile (.str group.1) c.settings.extension = .ok (stem ++ extension) ∧
      group.2.items? = some names ∧
      groupStep c dir group =
        .write (.str (Path.child dir (stem ++ extension))) (.text (groupText c group names)) := by
  obtain ⟨extension, hextension⟩ := hc.settings.extension.exists_eq
  obtain ⟨stem, hstem, hfile⟩ := Module.exists_stem hgroup.key extension
  obtain ⟨names, hnames, htexts⟩ := hgroup.names
  have hitems : group.2.items? = some names := by rw [hnames]; rfl
  have hwritable : Json.itemsWritable (c.settings.package :: .str group.1 :: names) = true :=
    Module.itemsWritable_of_isText (List.forall_mem_cons.mpr
      ⟨hc.settings.package, List.forall_mem_cons.mpr ⟨Metadata.isText_str _, htexts⟩⟩)
  rw [← hextension] at hfile
  refine ⟨stem, extension, names, hstem, hextension, hfile, hitems, ?_⟩
  rw [groupStep, hfile]
  simp only [Module.sharedDocument, hitems, hc.templates, hwritable, Module.Document.rendered_true,
    groupText]

/-- The step for a group can be taken just when the group has a module in the directory. -/
theorem exists_does_groupStep_iff (hflat : t.IsFlat dir place) (hgroup : IsGroup group) :
    (∃ t', (groupStep c dir group).Does t t') ↔ HasModule c dir group := by
  obtain ⟨stem, extension, names, hstem, -, hfile, hitems, hstep⟩ :=
    exists_groupStep_eq hc hgroup dir
  obtain ⟨s, rest, hsegments, hs⟩ := hstem.exists_segments_eq extension
  have hfits := hflat.succeeds_write_iff (hstem.isAbsolute_eq_false extension) hsegments hs.ne_up
  rw [hstep]
  constructor
  · rintro ⟨t', hdoes⟩
    cases hdoes with
    | write hd hb hw =>
      cases hd
      rw [FileTree.tidy_child] at hw
      refine ⟨?_, names, _, hitems, hb⟩
      rw [hfile, gives_ok_iff]
      exact (hfits _).mp ⟨t', hw⟩
  · rintro ⟨hgives, names', bytes, hitems', hb⟩
    obtain rfl := Option.some.inj (hitems.symm.trans hitems')
    rw [hfile, gives_ok_iff] at hgives
    obtain ⟨t', hw⟩ := (hfits bytes).mpr hgives
    rw [← FileTree.tidy_child] at hw
    exact ⟨t', .write rfl hb hw⟩

theorem exists_performed_groups_iff (hflat : t.IsFlat dir place)
    (hgs : ∀ group ∈ gs, IsGroup group) :
    (∃ t', Performed t (gs.map (groupStep c dir)) t') ↔ ∀ group ∈ gs, HasModule c dir group := by
  induction gs generalizing t with
  | nil => exact iff_of_true ⟨t, .nil⟩ fun _ h => absurd h List.not_mem_nil
  | cons group gs ih =>
    rw [List.forall_mem_cons] at hgs ⊢
    rw [List.map_cons, ← exists_does_groupStep_iff hc hflat hgs.1]
    have hmore : ∀ {t₁}, (groupStep c dir group).Does t t₁ → t₁.IsFlat dir place := by
      intro t₁ hdoes
      refine (Performed.singleton hdoes).isFlat ?_ hflat
      rintro _ hs path
      rw [List.mem_singleton.mp hs]
      exact groupStep_ne_makeDir path
    constructor
    · rintro ⟨t', hp⟩
      cases hp with
      | cons hdoes hrest => exact ⟨⟨_, hdoes⟩, (ih (hmore hdoes) hgs.2).mp ⟨t', hrest⟩⟩
    · rintro ⟨⟨t₁, hdoes⟩, hall⟩
      obtain ⟨t', hrest⟩ := (ih (hmore hdoes) hgs.2).mpr hall
      exact ⟨t', .cons hdoes hrest⟩

/-- A file that fits has its place right below the directory. -/
theorem exists_place?_groupStep (hflat : t.IsFlat dir place) (hgroup : IsGroup group)
    (hfits : Gives (Module.sharedFile (.str group.1) c.settings.extension) (Fits dir)) :
    ∃ stem extension s, IsKey stem ∧ c.settings.extension = .str extension ∧
      Module.sharedFile (.str group.1) c.settings.extension = .ok (stem ++ extension) ∧
      Path.segments (stem ++ extension) = [s] ∧
      t.locate (Path.child dir (stem ++ extension)) = .ok (place ++ [Text.systemName s]) ∧
      (groupStep c dir group).place? t.here = some (place ++ [Text.systemName s]) := by
  obtain ⟨stem, extension, _, hstem, hextension, hfile, -, hstep⟩ :=
    exists_groupStep_eq hc hgroup dir
  obtain ⟨s, rest, hsegments, hs⟩ := hstem.exists_segments_eq extension
  rw [hfile, gives_ok_iff] at hfits
  obtain ⟨s', hsingle, hlength⟩ := hfits.single
  obtain ⟨rfl, rfl⟩ := List.cons.inj (hsegments.symm.trans hsingle)
  have hlocate := hflat.locate_child (hstem.isAbsolute_eq_false extension) hfits.path hsegments
    hs.ne_up hlength
  refine ⟨stem, extension, s, hstem, hextension, hfile, hsegments, hlocate, ?_⟩
  rw [hstep, Step.place?_write, ← FileTree.eq_placeOf_of_locate hlocate]

/-- Groups whose files fit have places of their own if their files have names of their own. -/
theorem sharedFile_eq_of_place? (hflat : t.IsFlat dir place) {group' : String × Value}
    (hgroup : IsGroup group) (hgroup' : IsGroup group')
    (hfits : Gives (Module.sharedFile (.str group.1) c.settings.extension) (Fits dir))
    (hfits' : Gives (Module.sharedFile (.str group'.1) c.settings.extension) (Fits dir))
    (hplace : (groupStep c dir group).place? t.here = (groupStep c dir group').place? t.here) :
    Module.sharedFile (.str group.1) c.settings.extension =
      Module.sharedFile (.str group'.1) c.settings.extension := by
  obtain ⟨stem, extension, s, hstem, hextension, hfile, hsegments, -, hs⟩ :=
    exists_place?_groupStep hc hflat hgroup hfits
  obtain ⟨stem', extension', s', hstem', hextension', hfile', hsegments', -, hs'⟩ :=
    exists_place?_groupStep hc hflat hgroup' hfits'
  obtain rfl := Value.str.inj (hextension.symm.trans hextension')
  rw [hs, hs', Option.some_inj, List.append_cancel_left_eq] at hplace
  have hname := (List.cons.inj hplace).1
  rw [hfile, hfile', Module.eq_of_systemName_eq hstem hstem' hsegments hsegments' hname]

/-- Where all steps for groups are taken and their files have names of their own, every file has
the module of its group. -/
theorem Performed.read_group (h : Performed t (gs.map (groupStep c dir)) t')
    (hflat : t.IsFlat dir place) (hgs : ∀ group ∈ gs, IsGroup group)
    (hnames : (gs.map fun group =>
      Module.sharedFile (.str group.1) c.settings.extension).Nodup) (hgroup : group ∈ gs) :
    ∃ name names bytes, Module.sharedFile (.str group.1) c.settings.extension = .ok name ∧
      group.2.items? = some names ∧ Text.bytes? (groupText c group names) = some bytes ∧
      t'.read (Path.child dir name) = .ok bytes := by
  have hfits := fun group hgroup =>
    ((exists_performed_groups_iff hc hflat hgs).mp ⟨t', h⟩ group hgroup).fits
  obtain ⟨stem, extension, s, hstem, -, hfile, hsegments, hlocate, hplace⟩ :=
    exists_place?_groupStep hc hflat (hgs group hgroup) (hfits group hgroup)
  obtain ⟨stem', extension', names, -, -, hfile', hitems, hstep⟩ :=
    exists_groupStep_eq hc (hgs group hgroup) dir
  rw [← Except.ok.inj (hfile.symm.trans hfile')] at hstep
  obtain ⟨before, after, rfl⟩ := List.append_of_mem hgroup
  have hkept : Kept t ((before ++ group :: after).map (groupStep c dir)) t'
      (groupStep c dir group) := by
    rw [List.map_append, List.map_cons] at h ⊢
    apply h.kept hplace
    intro s' hs' hsame
    obtain ⟨group', hgroup', rfl⟩ := List.mem_map.mp hs'
    have hmem : group' ∈ before ++ group :: after :=
      List.mem_append_right _ (List.mem_cons_of_mem _ hgroup')
    have heq := sharedFile_eq_of_place? hc hflat (hgs group hgroup) (hgs group' hmem)
      (hfits group hgroup) (hfits group' hmem) (hplace.trans hsame.symm)
    rw [List.map_append, List.map_cons, List.nodup_append] at hnames
    exact (List.nodup_cons.mp hnames.2.1).1 (List.mem_map.mpr ⟨group', hgroup', heq.symm⟩)
  rw [hstep] at hkept
  cases hkept with
  | mk _ _ htext hbytes hentry =>
    cases htext
    refine ⟨_, names, _, hfile, hitems, hbytes, ?_⟩
    rw [← FileTree.eq_placeOf_of_locate hlocate] at hentry
    exact FileTree.read_of_locate
      (FileTree.locate_of_isDir h.here_eq (fun _ => h.isDir) hlocate) hentry

end Groups

theorem isGroup_of_valid {gs : Metadata.Fields} (h : Metadata.Valid.Groups gs)
    (hkeys : ∀ group ∈ gs, IsKey group.1) : ∀ group ∈ gs, IsGroup group := by
  intro group hgroup
  exact ⟨hkeys group hgroup, h group hgroup⟩

/-- Where shared exports are wanted, their directory is made and then come their modules. -/
theorem sharedSteps_of_wellFormed (hm : m.WellFormed) (hbase : c.settings.componentsDir = .str base)
    (hkeys : ∀ group ∈ groups c.settings m, IsKey group.1) :
    (∀ group ∈ groups c.settings m, IsGroup group) ∧
      (groups c.settings m = [] ∧ sharedSteps c m = [] ∨
        groups c.settings m ≠ [] ∧ sharedSteps c m = .makeDir (sharedDir base) ::
          (groups c.settings m).map (groupStep c (sharedDir base))) := by
  by_cases hwants : wantsShared c.settings m = true
  · rcases hm.commonReexports with hnull | ⟨gs, hgs, hvalid⟩
    · simp [wantsShared, hnull, Value.holds, Value.isEmpty] at hwants
    · have hgroups : groups c.settings m = gs := by rw [groups, if_pos hwants, hgs]
      have hsteps : sharedSteps c m =
          .makeDir (sharedDir base) :: gs.map (groupStep c (sharedDir base)) := by
        rw [sharedSteps, if_pos hwants, hbase, hgs]
        rfl
      have hne : gs ≠ [] := by
        rintro rfl
        simp [wantsShared, hgs, Value.holds, Value.isEmpty] at hwants
      rw [hgroups] at hkeys ⊢
      exact ⟨isGroup_of_valid hvalid hkeys, Or.inr ⟨hne, hsteps⟩⟩
  · have hgroups : groups c.settings m = [] := by rw [groups, if_neg hwants]
    have hsteps : sharedSteps c m = [] := by rw [sharedSteps, if_neg hwants]
    rw [hgroups]
    exact ⟨fun _ h => absurd h List.not_mem_nil, Or.inl ⟨rfl, hsteps⟩⟩

/-- The directory of the components is there and has nothing in it. -/
structure IsEmptyDir (t : FileTree) (base : String) : Prop where
  isDir : t.find base = .ok .dir
  empty : ∀ q ≠ [], t.entry? (FileTree.placeOf t.here base ++ q) = none

/-- The directory of the shared exports can be made after the steps: the system takes its path, and
no module has gone to its place. -/
structure HasRoom (here : List String) (base : String) (ss : List Step) : Prop where
  path : FileTree.obstacle? (sharedDir base) = none
  free : ∀ s ∈ ss, s.place? here ≠ some (FileTree.placeOf here (sharedDir base))

theorem IsEmptyDir.locate (h : IsEmptyDir t base) :
    t.locate base = .ok (FileTree.placeOf t.here base) ∧
      t.entry? (FileTree.placeOf t.here base) = some .dir := by
  have hfind := h.isDir
  unfold FileTree.find at hfind
  split at hfind
  · cases hfind
  · rename_i place hlocate
    rw [← FileTree.eq_placeOf_of_locate hlocate]
    split at hfind
    · cases hfind
    · rename_i hentry
      rw [hentry, Except.ok.inj hfind]
      exact ⟨hlocate, rfl⟩

theorem Step.does_makeDir_iff {path : String} :
    (makeDir path).Does t t' ↔ t.makeDir path = .ok t' := by
  constructor
  · rintro ⟨⟩
    assumption
  · exact .makeDir

section Made

variable (hempty : IsEmptyDir t base) (h : Performed t ss t₁)
  (hss : ∀ s ∈ ss, ∀ path, s ≠ .makeDir path)
include hempty h hss

theorem Performed.not_isDir_below {q : List String} (hq : q ≠ []) :
    t₁.entry? (FileTree.placeOf t.here base ++ q) ≠ some .dir := by
  intro hdir
  have hbefore := h.isDir_of_isDir hss hdir
  rw [hempty.empty q hq] at hbefore
  cases hbefore

theorem Performed.exists_makeDir_iff :
    (∃ t₂, (Step.makeDir (sharedDir base)).Does t₁ t₂) ↔ HasRoom t.here base ss := by
  have hplace : FileTree.placeOf t.here (sharedDir base) =
      FileTree.placeOf t.here base ++ [Text.systemName Module.sharedIndex] :=
    FileTree.placeOf_child_name isName_sharedIndex t.here base
  have hlocate : t₁.locate base = .ok (FileTree.placeOf t.here base) :=
    FileTree.locate_of_isDir h.here_eq (fun _ => h.isDir) hempty.locate.1
  have hmade := FileTree.succeeds_makeDir_child_iff hlocate (h.isDir hempty.locate.2)
    isName_sharedIndex (by decide) (h.not_isDir_below hempty hss (List.cons_ne_nil _ _))
  rw [h.entry?_eq_none_iff hss (hempty.empty _ (List.cons_ne_nil _ _)), ← hplace] at hmade
  simp only [Step.does_makeDir_iff]
  constructor
  · intro hm
    obtain ⟨hpath, hfree⟩ := hmade.mp hm
    exact ⟨hpath, hfree⟩
  · rintro ⟨hpath, hfree⟩
    exact hmade.mpr ⟨hpath, hfree⟩

theorem Performed.isFlat_sharedDir {t₂ : FileTree}
    (hdoes : (Step.makeDir (sharedDir base)).Does t₁ t₂) :
    t₂.IsFlat (sharedDir base) (FileTree.placeOf t₁.here (sharedDir base)) := by
  apply FileTree.isFlat_of_makeDir (Step.does_makeDir_iff.mp hdoes)
  intro s
  rw [h.here_eq, sharedDir, FileTree.placeOf_child_name isName_sharedIndex, List.append_assoc]
  exact h.not_isDir_below hempty hss (List.cons_ne_nil _ _)

end Made

/-- Once the modules of the components and the index have been written, a run ends well just when
the directory of the shared exports can be made and every key has a module in it. Then each of the
files has the module of its key; otherwise the run fails as a generation does, or for what is in the
path or the text of a step. -/
theorem generate_shares_iff (hc : c.Usable) (hm : m.WellFormed)
    (hg : Registry.ofList m.types = .ok g) (hbase : c.settings.componentsDir = .str base)
    (hhere : t.entry? t.here = some .dir) (hempty : IsEmptyDir t base)
    (hkeys : ∀ group ∈ groups c.settings m, IsKey group.1)
    (hnames : ((groups c.settings m).map fun group =>
      Module.sharedFile (.str group.1) c.settings.extension).Nodup)
    (hmodules : Performed t (moduleSteps c g m) t₁) :
    (Succeeds (generate c m t).2.result ↔ ∀ group ∈ groups c.settings m,
      HasRoom t.here base (moduleSteps c g m) ∧ HasModule c (sharedDir base) group) ∧
    (Succeeds (generate c m t).2.result → ∀ group ∈ groups c.settings m, ∃ name names bytes,
      Module.sharedFile (.str group.1) c.settings.extension = .ok name ∧
      group.2.items? = some names ∧ Text.bytes? (groupText c group names) = some bytes ∧
      (generate c m t).1.read (Path.child (sharedDir base) name) = .ok bytes) ∧
    ∀ e, (generate c m t).2.result = .error e →
      (∃ e', e = .generation e') ∨ ∃ s ∈ sharedSteps c m, s.IsStray e := by
  have hss : ∀ s ∈ moduleSteps c g m, ∀ path, s ≠ .makeDir path := fun s hs =>
    ne_makeDir_of_mem_moduleSteps hs
  obtain ⟨hgroups, hsteps⟩ := sharedSteps_of_wellFormed hm hbase hkeys
  refine ⟨?iff, ?files, ?failure⟩
  case iff =>
    rw [succeeds_generate_iff_of_performed hg hmodules]
    rcases hsteps with ⟨hnone, hsteps⟩ | ⟨hsome, hsteps⟩
    · rw [hnone, hsteps]
      exact iff_of_true ⟨t₁, .nil⟩ fun _ h => absurd h List.not_mem_nil
    · rw [hsteps]
      constructor
      · rintro ⟨t', hp⟩
        cases hp with
        | cons hdoes hrest =>
          have hflat := hmodules.isFlat_sharedDir hempty hss hdoes
          have hroom := (hmodules.exists_makeDir_iff hempty hss).mp ⟨_, hdoes⟩
          have hfits := (exists_performed_groups_iff hc hflat hgroups).mp ⟨t', hrest⟩
          exact fun group hgroup => ⟨hroom, hfits group hgroup⟩
      · intro hall
        obtain ⟨group, hgroup⟩ := List.exists_mem_of_ne_nil _ hsome
        obtain ⟨t₂, hdoes⟩ :=
          (hmodules.exists_makeDir_iff hempty hss).mpr (hall group hgroup).1
        have hflat := hmodules.isFlat_sharedDir hempty hss hdoes
        obtain ⟨t', hrest⟩ := (exists_performed_groups_iff hc hflat hgroups).mpr fun group hgroup =>
          (hall group hgroup).2
        exact ⟨t', .cons hdoes hrest⟩
  case files =>
    rintro ⟨r, hr⟩ group hgroup
    have hp := (performed_of_generate hr).1
    rw [schedule_eq_append hg] at hp
    obtain ⟨t₂, hfront, hshared⟩ := hp.exists_of_append
    obtain rfl := hmodules.unique hfront
    rcases hsteps with ⟨hnone, -⟩ | ⟨-, hsteps⟩
    · rw [hnone] at hgroup
      cases hgroup
    · rw [hsteps] at hshared
      cases hshared with
      | cons hdoes hrest =>
        have hflat := hmodules.isFlat_sharedDir hempty hss hdoes
        exact hrest.read_group hc hflat hgroups hnames hgroup
  case failure =>
    intro e he
    have hstopped := stopped_of_generate he
    rw [schedule_eq_append hg] at hstopped
    have hdir := hmodules.here_eq ▸ hmodules.isDir hhere
    rcases (ready_sharedSteps hc hm).excused hdir (hstopped.rest hmodules) with hrefusal | hstray
    · cases hrefusal with
      | write => exact Or.inl ⟨_, rfl⟩
      | makeDir => exact Or.inl ⟨_, rfl⟩
    · exact Or.inr hstray

theorem wellFormed_bareMetadata (names keys : List String) :
    (bareMetadata names keys).WellFormed := by
  refine ⟨?_, List.forall_mem_nil _, Or.inr ⟨_, rfl, ?_⟩⟩
  · intro w hw
    obtain ⟨name, -, rfl⟩ := List.mem_map.mp hw
    exact wellFormed_bareWidget name
  · intro group hgroup
    obtain ⟨key, -, rfl⟩ := List.mem_map.mp hgroup
    exact ⟨[], rfl, List.forall_mem_nil _⟩

theorem usable_sharingContext : sharingContext.Usable where
  templates := rfl
  resolver := Resolver.textual_standard
  settings := ⟨Metadata.isText_str _, Metadata.isText_str _, Metadata.isText_str _,
    Metadata.isText_str _, Metadata.isText_str _, Metadata.isText_str _, Or.inr rfl⟩

theorem isEmptyDir_bareTree : IsEmptyDir bareTree "src" where
  isDir := rfl
  empty q hq := by
    obtain ⟨s, q, rfl⟩ := List.exists_cons_of_ne_nil hq
    rfl

theorem isKey_charts : IsKey "common/charts" := by
  have h : "common/charts" = "common" ++ "/" ++ "charts" := by decide
  rw [h]
  exact .cons Module.isPlain_sharedIndex (.single (by decide))

theorem isKey_common_a_b : IsKey "common/a/b" := by
  have h : "common/a/b" = "common" ++ "/" ++ ("a" ++ "/" ++ "b") := by decide
  rw [h]
  exact .cons Module.isPlain_sharedIndex (.cons (by decide) (.single (by decide)))

/-- The index of nothing can be written into the directory of the components. -/
theorem exists_performed_bare (keys : List String) :
    ∃ t₁, Performed bareTree (moduleSteps sharingContext .empty (bareMetadata [] keys)) t₁ :=
  ⟨_, .singleton (.write rfl rfl rfl)⟩

def chartsMetadata : Metadata := bareMetadata [] ["common", "common/charts"]

theorem forall_mem_groups_charts {P : String × Value → Prop} (hindex : P ("common", .arr []))
    (hcharts : P ("common/charts", .arr [])) :
    ∀ group ∈ groups sharingContext.settings chartsMetadata, P group := by
  show ∀ group ∈ [("common", Value.arr []), ("common/charts", .arr [])], P group
  exact List.forall_mem_cons.mpr ⟨hindex, List.forall_mem_singleton.mpr hcharts⟩

theorem generate_shares_charts :
    Succeeds (generate sharingContext chartsMetadata bareTree).2.result ∧
      ∃ bytes, Text.bytes? (groupText sharingContext ("common/charts", .arr []) []) = some bytes ∧
        (generate sharingContext chartsMetadata bareTree).1.read "src/common/charts.ts" =
          .ok bytes := by
  have hwell : chartsMetadata.WellFormed := wellFormed_bareMetadata _ _
  have hempty : Registry.ofList chartsMetadata.types = .ok .empty := rfl
  obtain ⟨t₁, hmodules⟩ : ∃ t₁, Performed bareTree
      (moduleSteps sharingContext .empty chartsMetadata) t₁ := exists_performed_bare _
  have hkeys : ∀ group ∈ groups sharingContext.settings chartsMetadata, IsKey group.1 :=
    forall_mem_groups_charts (.single Module.isPlain_sharedIndex) isKey_charts
  have hnames : ((groups sharingContext.settings chartsMetadata).map fun group =>
      Module.sharedFile (.str group.1) sharingContext.settings.extension).Nodup := by
    show [Except.ok "index.ts", Except.ok "charts.ts"].Nodup
    simp
  obtain ⟨hiff, hfiles, -⟩ := generate_shares_iff usable_sharingContext hwell
    hempty rfl rfl isEmptyDir_bareTree hkeys hnames hmodules
  have hroom : HasRoom bareTree.here "src" (moduleSteps sharingContext .empty chartsMetadata) :=
    ⟨by decide +kernel, by decide +kernel⟩
  have hindex : HasModule sharingContext (sharedDir "src") ("common", .arr []) :=
    ⟨⟨"index.ts", rfl, by decide +kernel, "index.ts", by decide, by decide +kernel⟩,
      [], _, rfl, Text.bytes?_of_mark_not_mem (by decide +kernel)⟩
  have hcharts : HasModule sharingContext (sharedDir "src") ("common/charts", .arr []) :=
    ⟨⟨"charts.ts", rfl, by decide +kernel, "charts.ts", by decide, by decide +kernel⟩,
      [], _, rfl, Text.bytes?_of_mark_not_mem (by decide +kernel)⟩
  have hsucceeds := hiff.mpr (forall_mem_groups_charts ⟨hroom, hindex⟩ ⟨hroom, hcharts⟩)
  refine ⟨hsucceeds, ?_⟩
  obtain ⟨name, names, bytes, hname, hitems, hbytes, hread⟩ :=
    hfiles hsucceeds ("common/charts", .arr []) (List.mem_cons_of_mem _ List.mem_cons_self)
  cases hname
  cases hitems
  exact ⟨bytes, hbytes, hread⟩

/-- The directory that a file is meant to be in is not made. -/
theorem not_succeeds_generate_deep_key :
    IsKey "common/a/b" ∧ (bareMetadata [] ["common/a/b"]).WellFormed ∧ IsEmptyDir bareTree "src" ∧
      (∃ t₁, Performed bareTree
        (moduleSteps sharingContext .empty (bareMetadata [] ["common/a/b"])) t₁) ∧
      ¬ Succeeds (generate sharingContext (bareMetadata [] ["common/a/b"]) bareTree).2.result := by
  have hnone : (generate sharingContext (bareMetadata [] ["common/a/b"])
      bareTree).2.result.toOption.isSome = false := by decide +kernel
  refine ⟨isKey_common_a_b, wellFormed_bareMetadata _ _, isEmptyDir_bareTree,
    exists_performed_bare _, ?_⟩
  rintro ⟨r, hr⟩
  rw [hr] at hnone
  cases hnone

end VueWrap.Generation
