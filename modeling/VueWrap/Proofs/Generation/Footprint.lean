import VueWrap.Proofs.Generation.Prefix
import VueWrap.Proofs.Outcome

/-! # The footprint of a generation

A generation changes the modules of the widgets, the index and, where shared
exports are wanted, their directory and their modules, and it changes nothing
else, whether it succeeds or is stopped on the way.
-/

namespace VueWrap

/-- The trees differ at most at the places that some paths lead to. -/
structure FileTree.ChangesOnly (paths : String → Prop) (t t' : FileTree) : Prop where
  here : t'.here = t.here
  changed : ∀ place, t'.entry? place ≠ t.entry? place →
    ∃ path, paths path ∧ place = placeOf t.here path

theorem FileTree.ChangesOnly.refl (paths : String → Prop) (t : FileTree) :
    t.ChangesOnly paths t := ⟨rfl, fun _ hne => absurd rfl hne⟩

theorem FileTree.ChangesOnly.trans {paths : String → Prop} {t t₁ t' : FileTree}
    (h : t.ChangesOnly paths t₁) (h' : t₁.ChangesOnly paths t') : t.ChangesOnly paths t' where
  here := h'.here.trans h.here
  changed place hne := by
    by_cases hlast : t'.entry? place = t₁.entry? place
    · exact h.changed place (hlast ▸ hne)
    · exact h.here ▸ h'.changed place hlast

namespace Generation

variable {c : Context} {g : Registry} {m : Metadata} {w : Widget} {s : Step} {dir path : String}

inductive Target (c : Context) (m : Metadata) : String → Prop
  /-- The module of a widget, in the directory of the components. -/
  | component {g : Registry} {w : Widget} {dir : String} {file : ComponentFile}
      (hg : Registry.ofList m.types = .ok g) (hw : w ∈ m.widgets)
      (hfile : (Mapping.widget c.resolver g (places c.settings) w).result = .ok file)
      (hdir : c.settings.componentsDir = .str dir) :
      Target c m (Path.tidy (Path.join dir file.fileName))
  | index {path : String} (h : c.settings.indexFile = .str path) : Target c m (Path.tidy path)
  /-- The directory of the shared exports. -/
  | sharedDir {dir : String} (hwanted : wantsShared c.settings m = true)
      (hdir : c.settings.componentsDir = .str dir) : Target c m (Path.child dir Module.sharedIndex)
  /-- The module of a group of shared exports. -/
  | shared {dir name : String} {groups : List (String × Value)} {group : String × Value}
      (hwanted : wantsShared c.settings m = true) (hdir : c.settings.componentsDir = .str dir)
      (hgroups : Metadata.fields m.commonReexports = .ok groups) (hgroup : group ∈ groups)
      (hname : Module.sharedFile (.str group.1) c.settings.extension = .ok name) :
      Target c m (Path.tidy (Path.child (Path.child dir Module.sharedIndex) name))

theorem asPath_eq_ok_iff {v : Value} : asPath v = .ok path ↔ v = .str path := by
  cases v <;> simp [asPath]

theorem path?_write_eq_some_iff {written : String} {d : Module.Document} :
    (Step.write (.str written) d).path? = some path ↔ Path.tidy written = path := Option.some_inj

theorem target_of_widgetStep (hg : Registry.ofList m.types = .ok g) (hw : w ∈ m.widgets)
    (h : (widgetStep c g w).path? = some path) : Target c m path := by
  unfold widgetStep at h
  split at h
  · cases h
  · rename_i written hwritten
    obtain ⟨file, hfile, hwritten⟩ := bind_eq_ok_iff.mp hwritten
    obtain ⟨dir, hdir, hwritten⟩ := bind_eq_ok_iff.mp hwritten
    obtain rfl := Except.ok.inj hwritten
    obtain rfl := path?_write_eq_some_iff.mp h
    exact .component hg hw hfile (asPath_eq_ok_iff.mp hdir)

theorem path?_of_mem_entrySteps (h : s ∈ entrySteps c g w) : s.path? = none := by
  unfold entrySteps at h
  split at h
  · cases List.mem_singleton.mp h
    rfl
  · cases h

theorem target_of_indexStep {ws : List Widget} (h : (indexStep c g ws).path? = some path) :
    Target c m path := by
  unfold indexStep at h
  split at h
  · cases h
  · cases hindex : c.settings.indexFile with
    | str index =>
      rw [hindex] at h
      cases h
      exact .index hindex
    | _ =>
      rw [hindex] at h
      cases h

theorem target_of_groupStep {groups : List (String × Value)} {group : String × Value}
    (hwanted : wantsShared c.settings m = true) (hdir : c.settings.componentsDir = .str dir)
    (hgroups : Metadata.fields m.commonReexports = .ok groups) (hgroup : group ∈ groups)
    (h : (groupStep c (Path.child dir Module.sharedIndex) group).path? = some path) :
    Target c m path := by
  unfold groupStep at h
  split at h
  · cases h
  · rename_i name hname
    obtain rfl := path?_write_eq_some_iff.mp h
    exact .shared hwanted hdir hgroups hgroup hname

theorem target_of_mem_sharedSteps (hs : s ∈ sharedSteps c m) (h : s.path? = some path) :
    Target c m path := by
  unfold sharedSteps at hs
  split at hs
  · rename_i hwanted
    split at hs
    · cases List.mem_singleton.mp hs
      cases h
    · rename_i dir hdir
      have hdir := asPath_eq_ok_iff.mp hdir
      rcases List.mem_cons.mp hs with rfl | hs
      · obtain rfl : Path.child dir Module.sharedIndex = path := Option.some.inj h
        exact .sharedDir hwanted hdir
      · split at hs
        · cases List.mem_singleton.mp hs
          cases h
        · rename_i groups hgroups
          obtain ⟨group, hgroup, rfl⟩ := List.mem_map.mp hs
          exact target_of_groupStep hwanted hdir hgroups hgroup h
  · cases hs

/-- Every path that a step of a schedule changes is one that the generation is about. -/
theorem target_of_mem_schedule (hs : s ∈ schedule c m) (h : s.path? = some path) :
    Target c m path := by
  cases hg : Registry.ofList m.types with
  | error e =>
    rw [schedule, hg, List.mem_singleton] at hs
    subst hs
    cases h
  | ok g =>
    rw [schedule_of_registry hg, List.mem_append, List.mem_flatMap, List.mem_cons] at hs
    rcases hs with ⟨w, hw, hs⟩ | rfl | hs
    · rcases List.mem_cons.mp hs with rfl | hs
      · exact target_of_widgetStep hg hw h
      · rw [path?_of_mem_entrySteps hs] at h
        cases h
    · exact target_of_indexStep h
    · exact target_of_mem_sharedSteps hs h

/-- A generation changes nothing but what it is about. -/
theorem generate_changesOnly (c : Context) (m : Metadata) (t : FileTree) :
    t.ChangesOnly (Target c m) (generate c m t).1 := by
  rw [(generate_eq_exec c m t).1]
  obtain ⟨done, rest, t₁, hsplit, hp, hends⟩ := (plan_follows c m t).performed
  have hmem : ∀ s, s ∈ done ∨ s ∈ rest → s ∈ schedule c m := fun s hs =>
    hsplit ▸ List.mem_append.mpr hs
  have hdone : t.ChangesOnly (Target c m) t₁ := by
    refine ⟨hp.here_eq, fun place hne => ?_⟩
    obtain ⟨s, hs, path, hpath, hplace⟩ := hp.changed hne
    exact ⟨path, target_of_mem_schedule (hmem s (Or.inl hs)) hpath, hplace⟩
  cases hr : (exec t (plan c m)).2 with
  | ok r =>
    rw [hr] at hends
    exact hends.2.1 ▸ hdone
  | error e =>
    rw [hr] at hends
    obtain ⟨s, later, rfl, hf⟩ := hends
    refine hdone.trans ⟨hf.here_eq, fun place hne => ?_⟩
    obtain ⟨path, hpath, hplace⟩ := hf.changed hne
    have hs : s ∈ schedule c m := hmem s (Or.inr List.mem_cons_self)
    exact ⟨path, target_of_mem_schedule hs hpath, hplace⟩

end Generation

end VueWrap
