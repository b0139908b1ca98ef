import VueWrap.Proofs.Command.Flags
import VueWrap.Proofs.Settings.SaveLoad

/-! # The settings of a run

A run takes the settings of the file that it is given, laid over the defaults,
with the values of its flags laid over them. A setting whose flag is given has
the value of its last flag, whatever the file says of it, and any other setting
is as the file and the defaults leave it.
-/

namespace VueWrap.Command

open Settings (Name furtherKey counts said inEffect FileFields Merged)

variable {α β : Type} {x : Act α} {f : α → Act β} {b : β} {w : World} {g : Given} {n : Name}
  {s : Settings} {us : List Use} {fs es : List (String × Value)} {args : List String} {v : Verb}
  {verbose : Bool}

theorem run_bind (x : Act α) (f : α → Act β) (w : World) :
    (x >>= f).run.run w = match x.run.run w with
      | (.ok a, w') => (f a).run.run w'
      | (.error e, w') => (.error e, w') := by
  rw [ExceptT.run_bind, StateT.run_bind]
  show (match x.run.run w with | (r, w') => _) = _
  rcases x.run.run w with ⟨r | a, w'⟩ <;> rfl

theorem run_attempt (r : Except Failure α) (w : World) : (attempt r).run.run w = (r, w) := rfl

def resultOf (x : Act α) (w : World) : Except Failure α := (x.run.run w).1

theorem resultOf_bind_eq_ok_iff : resultOf (x >>= f) w = .ok b ↔
    ∃ a, resultOf x w = .ok a ∧ resultOf (f a) (x.run.run w).2 = .ok b := by
  rw [resultOf, run_bind, resultOf]
  rcases x.run.run w with ⟨e | a, w'⟩
  · simp
  · simp [resultOf]

theorem resultOf_say (text : String) (w : World) :
    resultOf (say text) w = (Console.textLines text).map fun _ => () := by
  rw [resultOf, say, run_bind, run_attempt]
  cases Console.textLines text <;> rfl

def warningLine (warning : String) : String := s!"[yellow]⚠️  {warning}[/yellow]"

def Tellable (s : Settings) : Prop :=
  Gives s.warnings fun ws => ∀ x ∈ ws, Succeeds (Console.textLines (warningLine x))

theorem succeeds_resultOf_bind_iff : Succeeds (resultOf (x >>= f) w) ↔
    Gives (resultOf x w) fun a => Succeeds (resultOf (f a) (x.run.run w).2) := by
  simp only [Succeeds, Gives, resultOf_bind_eq_ok_iff]
  constructor
  · rintro ⟨b, a, hx, hb⟩
    exact ⟨a, hx, b, hb⟩
  · rintro ⟨a, hx, b, hb⟩
    exact ⟨b, a, hx, hb⟩

/-- Lines for warnings, one by one. -/
theorem succeeds_resultOf_forIn (ws : List String) (w : World) :
    Succeeds (resultOf (forIn ws PUnit.unit fun x _ => do
      say (warningLine x)
      pure (ForInStep.yield PUnit.unit)) w) ↔
        ∀ x ∈ ws, Succeeds (Console.textLines (warningLine x)) := by
  induction ws generalizing w with
  | nil =>
    rw [List.forIn_nil]
    exact iff_of_true succeeds_ok fun x hx => absurd hx List.not_mem_nil
  | cons x ws ih =>
    rw [List.forIn_cons, bind_assoc, succeeds_resultOf_bind_iff, resultOf_say, gives_map_iff,
      List.forall_mem_cons, ← gives_const_iff]
    simp only [pure_bind, ih]

theorem resultOf_bind_attempt (r : Except Failure α) (f : α → Act β) (w : World) :
    resultOf (attempt r >>= f) w = r >>= fun a => resultOf (f a) w := by
  rw [resultOf, run_bind, run_attempt]
  cases r <;> rfl

/-- The settings of a run are those that are loaded, if their warnings can be told. -/
theorem settings_eq_ok_iff : resultOf (settings g) w = .ok s ↔
    Settings.load w.tree g.overrides g.config = .ok s ∧ Tellable s := by
  have hsteps : resultOf (settings g) w =
      resultOf (attempt (Settings.load w.tree g.overrides g.config) >>= fun s =>
        attempt s.warnings >>= fun ws => (forIn ws PUnit.unit fun x _ => do
          say (warningLine x)
          pure (ForInStep.yield PUnit.unit)) >>= fun _ => pure s) w := by
    rw [resultOf, settings, run_bind]
    rfl
  simp only [hsteps, resultOf_bind_attempt, bind_eq_ok_iff]
  constructor
  · rintro ⟨s₀, hload, ws, hws, h⟩
    obtain ⟨u, hlines, hs⟩ := resultOf_bind_eq_ok_iff.mp h
    cases hs
    exact ⟨hload, ws, hws, (succeeds_resultOf_forIn ws w).mp ⟨u, hlines⟩⟩
  · rintro ⟨hload, ws, hws, hlines⟩
    obtain ⟨u, hu⟩ := (succeeds_resultOf_forIn ws w).mpr hlines
    exact ⟨s, hload, ws, hws, resultOf_bind_eq_ok_iff.mpr ⟨u, hu, rfl⟩⟩

def Given.fields (g : Given) : List (String × Value) :=
  (Name.all.filter fun n => n != .extension).map fun n => (n.key, g.setting n)

theorem overrides_eq (g : Given) : g.overrides = .obj g.fields := rfl

theorem nodup_fields (g : Given) : (g.fields.map (·.1)).Nodup := by
  have hkeys : g.fields.map (·.1) =
      (Name.all.filter fun n => n != .extension).map Name.key := by
    rw [Given.fields, List.map_map]
    rfl
  rw [hkeys]
  decide

theorem field?_fields (g : Given) (n : Name) :
    Value.field? g.fields n.key = if n = .extension then none else some (g.setting n) := by
  cases n <;> rfl

theorem field?_fields_furtherKey (g : Given) : Value.field? g.fields furtherKey = none := rfl

theorem inEffect_fields_furtherKey (fs : List (String × Value)) (g : Given) :
    inEffect fs g.fields furtherKey = Value.field? fs furtherKey := by
  rw [inEffect, said, field?_fields_furtherKey]
  rfl

theorem counts_of_ne_null {v : Value} (h : v ≠ .null) : counts v = true := by
  cases v with
  | null => exact absurd rfl h
  | _ => rfl

/-- What the overrides say of a setting is what the last flag for it gives. -/
theorem said_fields (hg : g.setting n = (lastSetting n us).getD .null)
    (hne : lastSetting n us ≠ some .null) : said g.fields n.key = lastSetting n us := by
  rw [said, field?_fields, hg]
  cases hlast : lastSetting n us with
  | none => split <;> rfl
  | some v =>
    rw [hlast] at hg hne
    have hv : v ≠ .null := fun h => hne (congrArg some h)
    rw [if_neg, Option.getD_some, Option.filter_some, if_pos (counts_of_ne_null hv)]
    rintro rfl
    exact hv hg.symm

/-- The arguments end with the name of a command and the arguments of its own, which have the
marks `ms`. -/
def OwnMarks (args : List String) (v : Verb) (ms : List (String × Mark)) : Prop :=
  ∃ outer own, readPart .program args = .ok outer ∧ outer.rest = v.name :: own ∧
    (v.name :: own) <:+ args ∧ marked (.command v) own = .ok ms

/-- What passes the check has the argument that is needed. -/
theorem check_eq_ok {p : Part} {g₁ : Given} (h : g₁.check p = .ok g) :
    g₁ = g ∧ ∀ name, p.argument? = some name → g.argument ≠ none := by
  unfold Given.check at h
  split at h
  · cases h
  · rename_i hgiven
    split at h <;> cases h
    exact ⟨rfl, hgiven⟩

theorem exists_marked_of_readPart {p : Part} (h : readPart p args = .ok g) :
    ∃ ms, marked p args = .ok ms ∧ scan p {} ms = .ok g := by
  unfold readPart at h
  split at h
  · cases h
  · rename_i ms hms
    obtain ⟨g₁, hscan, hcheck⟩ := bind_eq_ok_iff.mp h
    exact ⟨ms, hms, (check_eq_ok hcheck).1 ▸ hscan⟩

/-- The argument that a part needs is there when the part is read. -/
theorem exists_argument_of_readPart {p : Part} {name : String} (h : readPart p args = .ok g)
    (hp : p.argument? = some name) : ∃ a, g.argument = some a := by
  unfold readPart at h
  split at h
  · cases h
  · obtain ⟨g₁, -, hcheck⟩ := bind_eq_ok_iff.mp h
    exact Option.ne_none_iff_exists'.mp ((check_eq_ok hcheck).2 name hp)

/-- The program's own part is read up to the name of a command, whose part is the rest. -/
theorem exists_parts (h : readArguments args = .ok ⟨verbose, some (v, g)⟩) :
    ∃ outer own, readPart .program args = .ok outer ∧ outer.rest = v.name :: own ∧
      readPart (.command v) own = .ok g := by
  obtain ⟨outer, houter, h⟩ := bind_eq_ok_iff.mp h
  split at h
  · obtain ⟨_, -, h⟩ := bind_eq_ok_iff.mp h
    cases h
  · rename_i name own hown
    split at h
    · cases h
    · rename_i v' hv'
      obtain ⟨inner, hinner, h⟩ := bind_eq_ok_iff.mp h
      obtain ⟨_, -, h⟩ := bind_eq_ok_iff.mp h
      cases h
      have hname : v.name = name := by simpa using List.find?_some hv'
      exact ⟨outer, own, houter, hname ▸ hown, hinner⟩

/-- A command stands in front of what is given to it. -/
theorem exists_ownMarks (h : readArguments args = .ok ⟨verbose, some (v, g)⟩) :
    ∃ ms, OwnMarks args v ms ∧ scan (.command v) {} ms = .ok g := by
  obtain ⟨outer, own, houter, hown, hinner⟩ := exists_parts h
  obtain ⟨oms, homs, hscan⟩ := exists_marked_of_readPart houter
  obtain ⟨ms, hms, hg⟩ := exists_marked_of_readPart hinner
  have hrest := rest_scan hscan
  rw [map_marked homs, hown] at hrest
  refine ⟨ms, ⟨outer, own, houter, hown, ?_, hms⟩, hg⟩
  exact hrest.resolve_left fun h => nomatch h

/-- What is loaded is what is in effect under every key. A run takes what is loaded with the flags
of its command for overrides: the last flag for a setting decides it, and a setting without a flag
is as the file has it, or the defaults. -/
theorem load_merges :
    (∀ {t : FileTree} {file : Value} {fs os es : List (String × Value)}, FileFields t file fs →
      (os.map (·.1)).Nodup → (inEffect fs os furtherKey).getD (.obj []) = .obj es →
      Gives (Settings.load t (.obj os) file) (Merged fs os es)) ∧
    ∀ {args : List String} {verbose : Bool} {v : Verb} {g : Given} {w : World}
      {fs es : List (String × Value)}, readArguments args = .ok ⟨verbose, some (v, g)⟩ →
      FileFields w.tree g.config fs →
      (Value.field? fs furtherKey).getD (.obj []) = .obj es →
      ∃ s ms, OwnMarks args v ms ∧ Settings.load w.tree g.overrides g.config = .ok s ∧
        Merged fs g.fields es s ∧
        (∀ s', resultOf (settings g) w = .ok s' ↔ s' = s ∧ Tellable s) ∧
        ∀ n, lastSetting n (usesIn (.command v) ms) ≠ some .null ∧
          s.get n = (lastSetting n (usesIn (.command v) ms)).getD
            ((Value.field? fs n.key).getD (Settings.defaults.get n)) := by
  constructor
  · intro t file fs os es hfile hos hes
    exact Settings.gives_load hfile hos hes
  · intro args verbose v g w fs es hargs hfile hes
    obtain ⟨ms, hms, hscan⟩ := exists_ownMarks hargs
    rw [← inEffect_fields_furtherKey fs g] at hes
    obtain ⟨s, hload, hmerged⟩ := Settings.gives_load hfile (nodup_fields g) hes
    refine ⟨s, ms, hms, hload, hmerged, fun s' => ?_, fun n => ?_⟩
    · rw [settings_eq_ok_iff, overrides_eq, hload]
      constructor
      · rintro ⟨hs', htellable⟩
        cases hs'
        exact ⟨rfl, htellable⟩
      · rintro ⟨rfl, htellable⟩
        exact ⟨rfl, htellable⟩
    · obtain ⟨_, _, -, -, -, hmarked⟩ := hms
      have hcommand : Part.command v ≠ .program := by rintro ⟨⟩
      have hne := lastSetting_usesIn_ne_null n (.command v) ms
      have hsetting : g.setting n = (lastSetting n (usesIn (.command v) ms)).getD .null := by
        rw [setting_scan hcommand (plainAfterStop_marked hmarked) hscan]
        cases n <;> rfl
      have hown := hmerged.own n
      rw [inEffect, said_fields hsetting hne, Option.getD_or] at hown
      exact ⟨hne, hown⟩

/-- A file with a setting that is null and a field that is none. -/
def houseFields : List (String × Value) :=
  [("components_dir", .str "lib"), ("generate_reexports", .bool true), ("vue_version", .null),
    ("theme", .int 1)]

def houseTree : FileTree :=
  ⟨[], [(["c.json"], .file (Json.writeBlock 2 (.obj houseFields)).toUTF8)]⟩

theorem readFile_houseTree : Settings.readFile houseTree "c.json" = .ok houseFields := by
  have hplain : (Value.obj houseFields).Plain := by
    refine .obj (by decide) fun f hf => ?_
    simp only [houseFields, List.mem_cons, List.not_mem_nil, or_false] at hf
    rcases hf with rfl | rfl | rfl | rfl <;> constructor
  have hwrite : FileTree.write ⟨[], []⟩ (Path.tidy "c.json")
      (Json.writeBlock 2 (.obj houseFields)).toUTF8 = .ok houseTree := rfl
  exact Settings.readFile_of_writeBlock (by decide +kernel) hplain (by decide +kernel)
    (Text.bytes?_of_mark_not_mem (by decide +kernel)) hwrite

/-- An empty text and a switch that is off count before the file, and so does an override under
the key of a further field. -/
theorem load_merges_houseTree :
    (∃ s, Settings.load houseTree (.obj [("theme", .str "dark"), ("vue_version", .int 2)])
        (.str "c.json") = .ok s ∧
      s.componentsDir = .str "lib" ∧ s.version = .int 2 ∧
      ∃ more, s.further = .plain (.obj more) ∧ Value.field? more "theme" = some (.str "dark")) ∧
    ∃ g s, readArguments ["generate", "-m", "m.json", "--config", "c.json", "--components-dir", "",
        "--no-generate-reexports"] = .ok ⟨false, some (.generate, g)⟩ ∧
      Settings.load houseTree g.overrides g.config = .ok s ∧
      s.componentsDir = .str "" ∧ s.reexports = .bool false ∧ s.version = .null ∧
      s.package = .str "devextreme" := by
  have hfile : FileFields houseTree (.str "c.json") houseFields :=
    .file (by decide) readFile_houseTree
  constructor
  · have hes : (inEffect houseFields [("theme", .str "dark"), ("vue_version", .int 2)]
        furtherKey).getD (.obj []) = .obj [] := rfl
    obtain ⟨s, hload, hmerged⟩ := load_merges.1 hfile (by decide) hes
    obtain ⟨more, hmore, -, hfields⟩ := hmerged.further
    exact ⟨s, hload, hmerged.own .componentsDir, hmerged.own .version, more, hmore, hfields _⟩
  · have hargs : readArguments ["generate", "-m", "m.json", "--config", "c.json",
        "--components-dir", "", "--no-generate-reexports"] = .ok ⟨false, some (.generate,
          { metadata := .str "m.json", config := .str "c.json", componentsDir := .str "",
            reexports := .bool false })⟩ := by with_unfolding_all rfl
    have hes : (Value.field? houseFields furtherKey).getD (.obj []) = .obj [] := rfl
    obtain ⟨s, ms, -, hload, hmerged, -⟩ :=
      load_merges.2 (w := ⟨houseTree, fun _ => .timedOut, [], []⟩) hargs hfile hes
    exact ⟨_, s, hargs, hload, hmerged.own .componentsDir, hmerged.own .reexports,
      hmerged.own .version, hmerged.own .package⟩

end VueWrap.Command
