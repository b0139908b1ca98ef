import VueWrap.Proofs.Command.Effects
import VueWrap.Proofs.Generation.Footprint
import VueWrap.Proofs.Path.Segments

/-! # The footprint of a run

However a run of the program ends, an inspection changes no file, settings are
saved to the one file that is given, and a generation changes nothing before its
metadata is loaded and then only what it is about. The network is asked at most
once, and only after the arguments and the settings have been read.
-/

namespace VueWrap.Command

open Generation (Target)

variable {β : Type} {w w' : World} {g : Given} {s : Settings} {m : Metadata} {t : FileTree}
  {net : Network} {r : String × Value} {verbose : Bool} {args : List String} {file : String}
  {v : Verb}

def Given.requests (g : Given) (w : World) : List (String × Value) :=
  match resultOf (settings g) w with
  | .error _ => []
  | .ok _ => g.loads w.tree w.network

/-- The settings are there, and the source is an address on the web that names a host. -/
structure Given.Fetches (g : Given) (w : World) : Prop where
  settings : Succeeds (resultOf (settings g) w)
  url : checkUrl g.url = .ok ()
  source : Source.IsFetched g.source.display

theorem requests_of_fetches (h : g.Fetches w) :
    g.requests w = [(g.source.display, Source.usualTimeout)] := by
  obtain ⟨s, hs⟩ := h.settings
  simp only [Given.requests, Given.loads, hs, h.url, Source.requests_load_of_fetched h.source]

theorem requests_of_not_fetches (h : ¬ g.Fetches w) : g.requests w = [] := by
  unfold Given.requests
  split
  · rfl
  · rename_i s hs
    unfold Given.loads
    split
    · rfl
    · rename_i u hu
      exact Source.requests_load_of_not fun hsource => h ⟨⟨s, hs⟩, hu, hsource⟩

theorem mem_requests_iff :
    r ∈ g.requests w ↔ g.Fetches w ∧ r = (g.source.display, Source.usualTimeout) := by
  by_cases h : g.Fetches w
  · rw [requests_of_fetches h, List.mem_singleton, and_iff_right h]
  · rw [requests_of_not_fetches h]
    exact iff_of_false List.not_mem_nil fun hr => h hr.1

theorem length_requests_le (g : Given) (w : World) : (g.requests w).length ≤ 1 := by
  by_cases h : g.Fetches w
  · rw [requests_of_fetches h]
    exact le_rfl
  · rw [requests_of_not_fetches h]
    exact Nat.zero_le 1

/-- How a command goes on that loads its settings and then its metadata. It stops there with its
files as they were, or it does the rest, which `rest` describes, with the same files. -/
inductive Goes (g : Given) (rest : Settings → Metadata → World → World → Prop) (w w' : World) : Prop
  | stopped (h : ¬ (Succeeds (resultOf (settings g) w) ∧ Succeeds (resultOf (metadata g) w)))
      (htree : w'.tree = w.tree) (hasked : w'.asked = w.asked ++ g.requests w)
  | on {s : Settings} {m : Metadata} {w₁ : World} (hs : resultOf (settings g) w = .ok s)
      (hm : resultOf (metadata g) w = .ok m) (htree : w₁.tree = w.tree)
      (hasked : w₁.asked = w.asked ++ g.requests w) (hrest : rest s m w₁ w')

variable {rest : Settings → Metadata → World → World → Prop}

theorem goes_load {load : Act Metadata} {f : Settings → Metadata → Act β}
    (hresult : ∀ w, resultOf load w = resultOf (metadata g) w)
    (hload : ∀ w, (worldAfter (metadata g) w).Still (worldAfter load w))
    (hf : ∀ s m w, rest s m w (worldAfter (f s m) w)) (w : World) :
    Goes g rest w (worldAfter (settings g >>= fun s => load >>= f s) w) := by
  have hsettings := quiet_settings g w
  rw [worldAfter_bind]
  cases hs : resultOf (settings g) w with
  | error e =>
    have hrequests : g.requests w = [] := by rw [Given.requests, hs]
    refine .stopped ?_ hsettings.tree ?_
    · rintro ⟨⟨s, hs'⟩, -⟩
      cases hs.symm.trans hs'
    · rw [hsettings.asked, hrequests, List.append_nil]
  | ok s =>
    obtain ⟨htree, -, hasked⟩ := metadata_touches g (worldAfter (settings g) w)
    have hloaded := hload (worldAfter (settings g) w)
    rw [hsettings.asked, hsettings.tree, hsettings.network] at hasked
    have hasked : (worldAfter load (worldAfter (settings g) w)).asked =
        w.asked ++ g.requests w := by
      rw [hloaded.asked, hasked, Given.requests, hs]
    have htree := hloaded.tree.trans (htree.trans hsettings.tree)
    simp only [worldAfter_bind, hresult, resultOf_metadata_of_still hsettings g]
    cases hm : resultOf (metadata g) w with
    | error e =>
      refine .stopped ?_ htree hasked
      rintro ⟨-, m, hm'⟩
      cases hm.symm.trans hm'
    | ok m => exact .on hs hm htree hasked (hf s m _)

theorem Goes.asked (h : Goes g rest w w')
    (hrest : ∀ s m w₁ w', rest s m w₁ w' → w'.asked = w₁.asked) :
    w'.asked = w.asked ++ g.requests w := by
  cases h with
  | stopped _ _ hasked => exact hasked
  | on _ _ _ hasked h => exact (hrest _ _ _ _ h).trans hasked

theorem goes_inspect (g : Given) (w : World) :
    Goes g (fun _ _ => World.Still) w (worldAfter (inspect g) w) := by
  refine goes_load (fun _ => rfl) (fun w => .refl _) (fun s m => ?_) w
  refine (quiet_lookUp _ _ _).bind fun file => (quiet_say _).bind fun _ => ?_
  refine (quiet_attempt _).bind fun t => (quiet_printTable t).bind fun _ => ?_
  exact (quiet_attempt _).bind fun ls => quiet_printLines ls

/-- The files are as a generation leaves them, and nothing is asked for. -/
def Generates (s : Settings) (m : Metadata) (w w' : World) : Prop :=
  w'.tree = (Generation.generate ⟨w.tree.here, .builtIn, .standard, s⟩ m w.tree).1 ∧
    w'.asked = w.asked

theorem Generates.still {w₁ : World} (h : Generates s m w w₁) (h' : w₁.Still w') :
    Generates s m w w' :=
  ⟨h'.tree.trans h.1, h'.asked.trans h.2⟩

theorem goes_generate (verbose : Bool) (g : Given) (w : World) :
    Goes g Generates w (worldAfter (generate verbose g) w) := by
  refine goes_load (resultOf_task _ _) (still_task _ _) (fun s m w => ?_) w
  have hhere : Generates s m w (worldAfter (generateHere s m) w) := generateHere_touches s m w
  refine (hhere.still (still_task _ _ w)).still (still_bind (fun r => ?_) w)
  refine (quiet_printLines _).bind fun _ => (quiet_say _).bind fun _ => ?_
  refine (quiet_say _).bind fun _ => ?_
  split
  · exact (quiet_printTable _).bind fun _ => quiet_printTable _
  · exact quiet_pure _

theorem save_eq_ok {t' : FileTree} {path : String} (h : s.save t (.str path) = .ok t') :
    ∃ bytes, t.write (Path.tidy path) bytes = .ok t' := by
  obtain ⟨es, -, h⟩ := bind_eq_ok_iff.mp h
  rcases hwrite : t.writeText (Path.tidy path) (Settings.textOf es) with ⟨t₁, _ | o⟩
  · rw [hwrite] at h
    dsimp only at h
    split at h
    · cases h
      obtain ⟨bytes, -, hwrite⟩ := FileTree.writeText_eq_none hwrite
      exact ⟨bytes, hwrite⟩
    · cases h
  · rw [hwrite] at h
    cases h

/-- Settings are saved to the file that is given, or nothing is changed. -/
theorem initConfig_touches (hfile : g.argument = some file) (w : World) :
    w.tree.ChangesOnly (· = file) (worldAfter (initConfig g) w).tree ∧
      (∀ t', starter.save w.tree (.str (Path.tidy file)) = .ok t' →
        (worldAfter (initConfig g) w).tree = t') ∧
      (worldAfter (initConfig g) w).asked = w.asked := by
  have hlast := still_bind (x := saveHere starter (Path.tidy file))
    (fun _ => quiet_say s!"[green]✓[/green] Configuration saved to [cyan]{Path.tidy file}[/cyan]") w
  have hcommand : initConfig g = saveHere starter (Path.tidy file) >>= fun _ =>
      say s!"[green]✓[/green] Configuration saved to [cyan]{Path.tidy file}[/cyan]" := by
    rw [initConfig, hfile]
    rfl
  rw [hcommand, hlast.tree, hlast.asked, saveHere, worldAfter_get_bind, worldAfter_attempt_bind]
  cases hsave : starter.save w.tree (.str (Path.tidy file)) with
  | error e => exact ⟨.refl _ _, nofun, rfl⟩
  | ok t' =>
    obtain ⟨bytes, hwrite⟩ := save_eq_ok hsave
    refine ⟨⟨FileTree.here_of_write hwrite, fun place hne => ?_⟩, fun _ h => Except.ok.inj h, rfl⟩
    refine ⟨file, rfl, ?_⟩
    rw [FileTree.eq_placeOf_of_write hwrite hne, FileTree.placeOf_tidy, FileTree.placeOf_tidy]

/-- Arguments that are read have a file to save settings to. -/
theorem exists_file (h : readArguments args = .ok ⟨verbose, some (.initConfig, g)⟩) :
    ∃ file, g.argument = some file := by
  obtain ⟨_, _, -, -, hown⟩ := exists_parts h
  exact exists_argument_of_readPart hown rfl

theorem whole_eq (verbose : Bool) (v : Verb) (g : Given) : whole verbose v g =
    tryCatch (perform verbose v g >>= fun _ => pure (Ending.exit 0)) tell := by
  funext w
  show whole verbose v g w = ExceptT.tryCatch (ExceptT.bind (perform verbose v g) _) tell w
  simp only [whole, bind, tryCatch, tryCatchThe, MonadExceptOf.tryCatch, ExceptT.tryCatch,
    ExceptT.bind, ExceptT.bindCont, ExceptT.mk, StateT.bind, EarlyReturnT.return,
    EarlyReturn.runK, ExceptT.run, pure, ExceptT.pure]
  rcases perform verbose v g w with ⟨e | a, w'⟩
  · dsimp only [StateT.pure, StateT.bind, pure]
    rcases tell e w' with ⟨e | a, w'⟩ <;> rfl
  · rfl

/-- Telling a failure touches nothing. -/
theorem still_whole (verbose : Bool) (v : Verb) (g : Given) (w : World) :
    (worldAfter (perform verbose v g) w).Still (worldAfter (whole verbose v g) w) := by
  have hdone := still_bind (x := perform verbose v g) (fun _ => quiet_pure (Ending.exit 0)) w
  rw [whole_eq, worldAfter_tryCatch]
  split
  · exact hdone
  · exact hdone.trans (quiet_tell _ _)

def opening (t : FileTree) (net : Network) : World := ⟨t, net, [], []⟩

theorem still_run (h : readArguments args = .ok ⟨verbose, some (v, g)⟩) :
    (worldAfter (perform verbose v g) (opening t net)).Still (run args t net).world := by
  have hworld : (run args t net).world = worldAfter (whole verbose v g) (opening t net) := by
    simp only [run, h, worldAfter, opening]
    rcases (whole verbose v g).run.run ⟨t, net, [], []⟩ with ⟨e | a, w'⟩ <;> rfl
  rw [hworld]
  exact still_whole _ _ _ _

/-- The arguments name a command, and all that it needs is given. -/
def Names (args : List String) (v : Verb) (g : Given) : Prop :=
  ∃ verbose, readArguments args = .ok ⟨verbose, some (v, g)⟩

theorem still_run_of_not (h : ∀ v g, ¬ Names args v g) :
    (opening t net).Still (run args t net).world := by
  unfold run
  split
  · exact ⟨rfl, rfl, rfl⟩
  · exact ⟨rfl, rfl, rfl⟩
  · exact ⟨rfl, rfl, rfl⟩
  · exact ⟨rfl, rfl, rfl⟩
  · rename_i verbose v g hargs
    exact absurd ⟨verbose, hargs⟩ (h v g)

theorem tree_run_inspect (h : Names args .inspect g) : (run args t net).world.tree = t := by
  obtain ⟨verbose, h⟩ := h
  refine (still_run h).tree.trans ?_
  cases goes_inspect g (opening t net) with
  | stopped _ htree _ => exact htree
  | on _ _ htree _ hrest => exact hrest.tree.trans htree

theorem run_initConfig (h : Names args .initConfig g) : ∃ file, g.argument = some file ∧
    t.ChangesOnly (· = file) (run args t net).world.tree ∧
      ∀ t', starter.save t (.str (Path.tidy file)) = .ok t' → (run args t net).world.tree = t' := by
  obtain ⟨verbose, h⟩ := h
  obtain ⟨file, hfile⟩ := exists_file h
  obtain ⟨hchanges, hsave, -⟩ := initConfig_touches hfile (opening t net)
  rw [(still_run h).tree]
  exact ⟨file, hfile, hchanges, hsave⟩

theorem tree_run_of_error {e : Failure} (h : Names args .generate g)
    (he : resultOf (settings g) (opening t net) = .error e ∨
      resultOf (metadata g) (opening t net) = .error e) : (run args t net).world.tree = t := by
  obtain ⟨verbose, h⟩ := h
  refine (still_run h).tree.trans ?_
  cases goes_generate verbose g (opening t net) with
  | stopped _ htree _ => exact htree
  | on hs hm _ _ _ =>
    rcases he with he | he
    · cases hs.symm.trans he
    · cases hm.symm.trans he

theorem tree_run_generate (h : Names args .generate g)
    (hs : resultOf (settings g) (opening t net) = .ok s)
    (hm : resultOf (metadata g) (opening t net) = .ok m) : (run args t net).world.tree =
      (Generation.generate ⟨t.here, .builtIn, .standard, s⟩ m t).1 := by
  obtain ⟨verbose, h⟩ := h
  refine (still_run h).tree.trans ?_
  cases goes_generate verbose g (opening t net) with
  | stopped h _ _ => exact absurd ⟨⟨s, hs⟩, m, hm⟩ h
  | on hs' hm' htree _ hrest =>
    cases hs.symm.trans hs'
    cases hm.symm.trans hm'
    refine hrest.1.trans ?_
    rw [htree]
    rfl

def NamesLoading (args : List String) (g : Given) : Prop :=
  Names args .generate g ∨ Names args .inspect g

theorem asked_run (h : NamesLoading args g) :
    (run args t net).world.asked = g.requests (opening t net) := by
  rcases h with ⟨verbose, h⟩ | ⟨verbose, h⟩
  · exact (still_run h).asked.trans ((goes_generate verbose g _).asked fun _ _ _ _ h => h.2)
  · exact (still_run h).asked.trans ((goes_inspect g _).asked fun _ _ _ _ h => h.asked)

theorem asked_run_of_not (h : ∀ g, ¬ NamesLoading args g) : (run args t net).world.asked = [] := by
  by_cases hnames : ∃ v g, Names args v g
  · obtain ⟨v, g, verbose, hargs⟩ := hnames
    cases v with
    | generate => exact absurd (.inl ⟨verbose, hargs⟩) (h g)
    | inspect => exact absurd (.inr ⟨verbose, hargs⟩) (h g)
    | initConfig =>
      obtain ⟨file, hfile⟩ := exists_file hargs
      exact (still_run hargs).asked.trans (initConfig_touches hfile _).2.2
  · exact (still_run_of_not fun v g hv => hnames ⟨v, g, hv⟩).asked

theorem mem_asked_run_iff : r ∈ (run args t net).world.asked ↔
    ∃ g, NamesLoading args g ∧ g.Fetches (opening t net) ∧
      r = (g.source.display, Source.usualTimeout) := by
  constructor
  · intro hr
    by_cases h : ∃ g, NamesLoading args g
    · obtain ⟨g, h⟩ := h
      rw [asked_run h] at hr
      exact ⟨g, h, mem_requests_iff.mp hr⟩
    · rw [asked_run_of_not fun g hg => h ⟨g, hg⟩] at hr
      cases hr
  · rintro ⟨g, h, hr⟩
    rw [asked_run h]
    exact mem_requests_iff.mpr hr

theorem length_asked_run_le (args : List String) (t : FileTree) (net : Network) :
    (run args t net).world.asked.length ≤ 1 := by
  by_cases h : ∃ g, NamesLoading args g
  · obtain ⟨g, h⟩ := h
    rw [asked_run h]
    exact length_requests_le g _
  · rw [asked_run_of_not fun g hg => h ⟨g, hg⟩]
    exact Nat.zero_le 1

/-- What a run that ends in the world `w` may have changed, and what it has asked for. -/
structure Footprint (args : List String) (t : FileTree) (net : Network) (w : World) : Prop where
  /-- Arguments that name no command, or not all that it needs, change nothing. -/
  unread : (∀ v g, ¬ Names args v g) → w.tree = t
  inspected : ∀ g, Names args .inspect g → w.tree = t
  /-- Settings are saved to the file that is given and to no other. -/
  saved : ∀ g, Names args .initConfig g → ∃ file, g.argument = some file ∧
    t.ChangesOnly (· = file) w.tree ∧
      ∀ t', starter.save t (.str (Path.tidy file)) = .ok t' → w.tree = t'
  /-- Without settings or without metadata, a generation changes nothing. -/
  stopped : ∀ g e, Names args .generate g → (resultOf (settings g) (opening t net) = .error e ∨
    resultOf (metadata g) (opening t net) = .error e) → w.tree = t
  generated : ∀ g s m, Names args .generate g → resultOf (settings g) (opening t net) = .ok s →
    resultOf (metadata g) (opening t net) = .ok m →
    t.ChangesOnly (Target ⟨t.here, .builtIn, .standard, s⟩ m) w.tree ∧
      w.tree = (Generation.generate ⟨t.here, .builtIn, .standard, s⟩ m t).1
  asked_once : w.asked.length ≤ 1
  asked : ∀ r, r ∈ w.asked ↔ ∃ g, NamesLoading args g ∧ g.Fetches (opening t net) ∧
    r = (g.source.display, Source.usualTimeout)

/-- However a run ends, it has the footprint of its command. -/
theorem run_footprint (args : List String) (t : FileTree) (net : Network) :
    Footprint args t net (run args t net).world where
  unread h := (still_run_of_not h).tree
  inspected _ h := tree_run_inspect h
  saved _ h := run_initConfig h
  stopped _ _ h he := tree_run_of_error h he
  generated _ _ _ h hs hm := by
    rw [tree_run_generate h hs hm]
    exact ⟨Generation.generate_changesOnly _ _ _, rfl⟩
  asked_once := length_asked_run_le args t net
  asked _ := mem_asked_run_iff

/-- A network that does not answer is asked once. -/
example : (run ["inspect", "Box", "--url", "http://h/m.json"] ⟨[], []⟩
    fun _ => .timedOut).world.asked.map (·.1) = ["http://h/m.json"] := by decide +kernel

end VueWrap.Command
