import VueWrap.Proofs.FileTree.Edits
import VueWrap.Proofs.Generation.Overwrite

/-! # A second run

A run that has ended well can be done again on the tree that it leaves, and
changes nothing there. A step may be written over by a later one, so the trees on
the way differ from those of the first run; but they have the directories of the
last tree, and setting once more what the first run has set leads back to it.
-/

namespace VueWrap.Generation

variable {t t₁ t₂ t' u : FileTree} {s : Step} {ss : List Step} {place : List String}
  {here : List String} {sources : List (List String)} {c : Context} {m : Metadata} {e : Failure}

namespace Step

/-- The place whose file a step reads the text of its module from. -/
def source? (here : List String) : Step → Option (List String)
  | write _ (.file directory name) =>
    (Module.templatePath? directory name).map (FileTree.placeOf here)
  | _ => none

def target? (here : List String) (s : Step) : Option (List String) :=
  s.path?.map (FileTree.placeOf here)

end Step

/-- No step changes a place that one of them reads from. -/
def Spared (here : List String) (ss : List Step) : Prop :=
  ∀ place ∈ ss.filterMap (Step.source? here), place ∉ ss.filterMap (Step.target? here)

instance (here : List String) (ss : List Step) : Decidable (Spared here ss) :=
  List.decidableBAll _ _

/-- The steps read from none but these places, and change none of them. -/
structure Spares (sources : List (List String)) (here : List String) (ss : List Step) : Prop where
  source : ∀ s ∈ ss, ∀ place, s.source? here = some place → place ∈ sources
  target : ∀ s ∈ ss, ∀ place ∈ sources, s.target? here ≠ some place

theorem Spared.spares (h : Spared here ss) : Spares (ss.filterMap (Step.source? here)) here ss where
  source s hs _ hplace := List.mem_filterMap.mpr ⟨s, hs, hplace⟩
  target s hs place hplace htarget := h place hplace (List.mem_filterMap.mpr ⟨s, hs, htarget⟩)

theorem Spares.tail (h : Spares sources here (s :: ss)) : Spares sources here ss where
  source := (List.forall_mem_cons.mp h.source).2
  target := (List.forall_mem_cons.mp h.target).2

theorem Performed.entry?_of_spares (h : Performed t ss t') (hspares : Spares sources t.here ss)
    (hplace : place ∈ sources) : t'.entry? place = t.entry? place := by
  by_contra hne
  obtain ⟨s, hs, path, hpath, rfl⟩ := h.changed hne
  refine hspares.target s hs _ hplace ?_
  rw [Step.target?, hpath, Option.map_some]

theorem Step.Does.isFile (h : s.Does t t') (hf : ∃ bytes, t.entry? place = some (.file bytes)) :
    ∃ bytes, t'.entry? place = some (.file bytes) := by
  obtain ⟨bytes, hf⟩ := hf
  by_cases hplace : s.place? t.here = some place
  · cases h with
    | makeDir => cases hplace
    | write _ _ hw =>
      rw [Step.place?_write, Option.some_inj, ← FileTree.placeOf_tidy] at hplace
      exact ⟨_, hplace ▸ FileTree.entry?_of_write hw⟩
  · exact ⟨bytes, h.entry?_of_file hf hplace⟩

theorem Performed.isFile (h : Performed t ss t')
    (hf : ∃ bytes, t.entry? place = some (.file bytes)) :
    ∃ bytes, t'.entry? place = some (.file bytes) := by
  induction h with
  | nil => exact hf
  | cons hs _ ih => exact ih (hs.isFile hf)

/-- Trees in which the same places are reached and the same texts are read. -/
structure Alike (sources : List (List String)) (u t : FileTree) : Prop where
  here : u.here = t.here
  dirs : ∀ q, u.entry? q = some .dir ↔ t.entry? q = some .dir
  sources : ∀ place ∈ sources, u.entry? place = t.entry? place

namespace Alike

theorem refl (sources : List (List String)) (t : FileTree) : Alike sources t t :=
  ⟨rfl, fun _ => Iff.rfl, fun _ _ => rfl⟩

theorem set_file (h : Alike sources u t) (hplace : place ∉ sources) (hroot : place ≠ [])
    (hf : ∃ bytes, t.entry? place = some (.file bytes)) (bytes : ByteArray) :
    Alike sources (u.set place (.file bytes)) t where
  here := h.here
  dirs q := by
    by_cases hq : q = place
    · obtain ⟨_, hf⟩ := hf
      rw [hq, FileTree.entry?_set_self hroot, hf]
      simp
    · rw [FileTree.entry?_set_of_ne hq, h.dirs]
  sources q hq := by
    have hne : q ≠ place := fun heq => hplace (heq ▸ hq)
    rw [FileTree.entry?_set_of_ne hne, h.sources q hq]

variable (hu : Alike sources u t') (h : Performed t ss t')
include hu h

theorem locate {path : String} (hl : t.locate path = .ok place) : u.locate path = .ok place :=
  FileTree.locate_of_isDir (hu.here.trans h.here_eq) (fun q hq => (hu.dirs q).mpr (h.isDir hq)) hl

theorem look (hspares : Spares sources t.here ss) {target : Value} {d : Module.Document}
    {text : List Char} (hs : .write target d ∈ ss) (hd : d.look t = .ok text) :
    d.look u = .ok text := by
  cases d with
  | text _ => exact hd
  | none _ => exact hd
  | file directory name =>
    unfold Module.Document.look Module.template at hd ⊢
    dsimp only at hd ⊢
    split at hd
    · cases hd
    · rename_i path hpath
      split at hd
      · cases hd
      · rename_i bytes hread
        obtain ⟨hl, hentry⟩ := FileTree.read_eq_ok hread
        have hsource : FileTree.placeOf t.here path ∈ sources := by
          refine hspares.source _ hs _ ?_
          rw [Step.source?, hpath, Option.map_some]
        rw [← h.entry?_of_spares hspares hsource, ← hu.sources _ hsource] at hentry
        rw [FileTree.read_of_locate (hu.locate h hl) hentry]
        exact hd

end Alike

/-- A step that has been taken can be taken in every tree that is like the last one. Of the entries
`es` that it has set, those that are not set again are there. -/
theorem Step.Does.again (h : s.Does t t₁) (hlater : Performed t₁ ss t')
    (hspares : Spares sources t.here (s :: ss)) :
    ∃ es, t₁ = t.edit es ∧ ∀ u, Alike sources u t' →
      ∃ u₁, s.Does u u₁ ∧ Alike sources u₁ t' ∧
        ∀ es', u.edit (es ++ es') = t' → u₁.edit es' = t' := by
  have hall : Performed t (s :: ss) t' := .cons h hlater
  cases h with
  | @write _ path d text bytes hd hb hw =>
    have hl := FileTree.locate_of_write hw
    have hfile := hlater.isFile ⟨_, FileTree.entry?_of_write hw⟩
    obtain ⟨hnodir, rfl⟩ := FileTree.write_eq_ok hw
    refine ⟨_, (FileTree.edit_singleton t _ _).symm, fun u hu => ?_⟩
    have hnodir' : u.entry? (FileTree.placeOf t.here (Path.tidy path)) ≠ some .dir := by
      obtain ⟨_, hfile⟩ := hfile
      rw [ne_eq, hu.dirs, hfile]
      simp
    refine ⟨_, .write (hu.look hall hspares List.mem_cons_self hd) hb
      (FileTree.write_of_locate (hu.locate hall hl) hnodir' _), ?alike, fun es' hes' => ?rest⟩
    case alike =>
      refine hu.set_file (fun hmem => ?_) (fun hroot => ?_) hfile _
      · exact hspares.target _ List.mem_cons_self _ hmem rfl
      · exact hnodir (hroot ▸ FileTree.entry?_root t)
    case rest => rwa [List.singleton_append, FileTree.edit_cons] at hes'
  | @makeDir _ path hm =>
    have hl := FileTree.locate_of_makeDir hm
    have hmade : ∀ u, Alike sources u t' → u.entry? (FileTree.placeOf t.here path) = some .dir :=
      fun u hu => (hu.dirs _).mpr (hlater.isDir (FileTree.entry?_of_makeDir hm))
    -- The directory is there by now, whether the first run has made it or found it.
    have hdoes : ∀ u, Alike sources u t' → Step.Does u (.makeDir path) u := fun u hu =>
      .makeDir (FileTree.makeDir_of_locate (hu.locate hall hl) (hmade u hu))
    rcases FileTree.makeDir_eq_ok hm with ⟨-, rfl⟩ | ⟨hnone, rfl⟩
    · exact ⟨[], rfl, fun u hu => ⟨u, hdoes u hu, hu, fun _ hes' => hes'⟩⟩
    · refine ⟨_, (FileTree.edit_singleton t _ _).symm, fun u hu =>
        ⟨u, hdoes u hu, hu, fun es' hes' => ?_⟩⟩
      have hroot : FileTree.placeOf t.here path ≠ [] := fun hroot => by
        rw [hroot, FileTree.entry?_root] at hnone
        cases hnone
      rw [List.singleton_append, FileTree.edit_cons,
        FileTree.set_eq_self hroot (hmade u hu)] at hes'
      exact hes'

theorem Performed.exists_edit (h : Performed t ss t') (hspares : Spares sources t.here ss) :
    ∃ es, t' = t.edit es ∧ ∀ u, Alike sources u t' → u.edit es = t' → Performed u ss t' := by
  induction h with
  | nil => exact ⟨[], rfl, fun u _ hu => hu ▸ .nil⟩
  | cons hs hss ih =>
    obtain ⟨es, hes, hagain⟩ := hs.again hss hspares
    obtain ⟨es', hes', hlater⟩ := ih (hs.here_eq ▸ hspares.tail)
    refine ⟨es ++ es', ?_, fun u hu hedit => ?_⟩
    · rw [hes', hes, FileTree.edit_append]
    · obtain ⟨u₁, hdoes, hu₁, hrest⟩ := hagain u hu
      exact .cons hdoes (hlater u₁ hu₁ (hrest es' hedit))

/-- Steps that have been taken can be taken again, and then change nothing. -/
theorem Performed.again (h : Performed t ss t') (hspared : Spared t.here ss) :
    Performed t' ss t' := by
  obtain ⟨es, rfl, hagain⟩ := h.exists_edit hspared.spares
  exact hagain _ (.refl _ _) (FileTree.edit_edit t es)

section BuiltIn

variable {g : Registry} (hc : c.templates = .builtIn)
include hc

theorem source?_widgetStep (w : Widget) : (widgetStep c g w).source? here = none := by
  rw [widgetStep, hc]
  split
  · rfl
  · unfold Module.componentDocument Module.Document.rendered
    split
    · rfl
    · dsimp only
      split
      · rfl
      · split <;> rfl

theorem source?_indexStep (ws : List Widget) : (indexStep c g ws).source? here = none := by
  rw [indexStep, hc]
  unfold Module.indexDocument Module.Document.rendered
  split
  · rfl
  · dsimp only
    split <;> rfl

theorem source?_groupStep (dir : String) (group : String × Value) :
    (groupStep c dir group).source? here = none := by
  rw [groupStep, hc]
  split
  · rfl
  · unfold Module.sharedDocument Module.Document.rendered
    split
    · rfl
    · dsimp only
      split <;> rfl

theorem source?_sharedSteps (hs : s ∈ sharedSteps c m) : s.source? here = none := by
  unfold sharedSteps at hs
  split at hs
  · split at hs
    · obtain rfl := List.mem_singleton.mp hs
      rfl
    · rcases List.mem_cons.mp hs with rfl | hs
      · rfl
      · split at hs
        · obtain rfl := List.mem_singleton.mp hs
          rfl
        · obtain ⟨group, -, rfl⟩ := List.mem_map.mp hs
          exact source?_groupStep hc _ group
  · cases hs

theorem source?_schedule (hs : s ∈ schedule c m) : s.source? here = none := by
  unfold schedule at hs
  split at hs
  · obtain rfl := List.mem_singleton.mp hs
    rfl
  · rcases List.mem_append.mp hs with hs | hs
    · obtain ⟨w, -, hs⟩ := List.mem_flatMap.mp hs
      rcases List.mem_cons.mp hs with rfl | hs
      · exact source?_widgetStep hc w
      · rw [entrySteps] at hs
        split at hs
        · obtain rfl := List.mem_singleton.mp hs
          rfl
        · cases hs
    · rcases List.mem_cons.mp hs with rfl | hs
      · exact source?_indexStep hc m.widgets
      · exact source?_sharedSteps hc hs

theorem spared_of_builtIn : Spared here (schedule c m) := by
  intro place hplace
  obtain ⟨s, hs, hsource⟩ := List.mem_filterMap.mp hplace
  rw [source?_schedule hc hs] at hsource
  cases hsource

end BuiltIn

theorem records_run {as : List Action} (h : (run t as).failure = none) :
    (run t as).records = as.flatMap Action.records := by
  induction as generalizing t with
  | nil => rfl
  | cons a as ih =>
    rw [run] at h ⊢
    split at h
    · cases h
    · rw [List.flatMap_cons, ← ih h]

theorem exec_eq_ok {β : Type} {x : Plan β} {b : β} (h : (exec t x).2 = .ok b) :
    (run t x.trace).failure = none ∧ x.result = .ok b := by
  unfold exec at h
  dsimp only at h
  split at h
  · cases h
  · rename_i hfailure
    exact ⟨hfailure, h⟩

/-- A run that ends well tells all that its plan tells. -/
theorem generate_of_ok {r : Report} (h : (generate c m t).2.result = .ok r) :
    (generate c m t).2 = ⟨(plan c m).trace.flatMap Action.records, (plan c m).result⟩ := by
  have hfailure := (exec_eq_ok h).1
  simp only [generate, records_run hfailure, hfailure]

/-- A run that ends well can be repeated where it has led to: the tree stays as it is, and the
report and the records are the same. If texts come from a directory, no module may be written over
one of them. -/
theorem generate_generate {r : Report}
    (hspared : ∀ directory, c.templates = .directory directory → Spared t.here (schedule c m))
    (hr : (generate c m t).2.result = .ok r) :
    generate c m (generate c m t).1 = generate c m t := by
  have hspared : Spared t.here (schedule c m) := by
    cases hc : c.templates with
    | builtIn => exact spared_of_builtIn hc
    | directory directory => exact hspared directory hc
  obtain ⟨hp, -⟩ := performed_of_generate hr
  obtain ⟨r', hagain⟩ := (plan_follows c m).exec_of_performed (hp.again hspared)
  obtain ⟨htree, hresult⟩ := generate_eq_exec c m (generate c m t).1
  rw [hagain] at htree hresult
  exact Prod.ext htree ((generate_of_ok hresult).trans (generate_of_ok hr).symm)

/-- Two widgets with one file, and shared exports whose directory has to be made. -/
def buttons : Metadata := bareMetadata ["dxButton", "Button"] ["common"]

/-- A tree with plain texts in the place of modules. -/
def templateTree : FileTree where
  here := []
  entries :=
    [(["src"], .dir), (["texts"], .dir),
      (["texts", Module.componentTemplate], .file "component".toUTF8),
      (["texts", Module.indexTemplate], .file "index".toUTF8),
      (["texts", Module.sharedTemplate], .file "shared".toUTF8)]

/-- The texts of modules are those of `templateTree`. -/
def templateContext : Context := { sharingContext with templates := .directory "texts" }

/-- Files that are written twice in a run, and a directory that it makes. -/
theorem generate_generate_buttons :
    generate sharingContext buttons (generate sharingContext buttons bareTree).1 =
        generate sharingContext buttons bareTree ∧
      generate templateContext buttons (generate templateContext buttons templateTree).1 =
        generate templateContext buttons templateTree := by
  constructor
  · obtain ⟨r, hr, -⟩ := @exists_report bareTree sharingContext buttons
      ["src/button.ts", "src/button.ts", "src/index.ts", "src/common/index.ts"] (by decide +kernel)
    exact generate_generate nofun hr
  · obtain ⟨r, hr, -⟩ := @exists_report templateTree templateContext buttons
      ["src/button.ts", "src/button.ts", "src/index.ts", "src/common/index.ts"] (by decide +kernel)
    exact generate_generate (fun _ _ => by decide +kernel) hr

end VueWrap.Generation
