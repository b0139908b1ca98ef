import VueWrap.Proofs.Command.Settings
import VueWrap.Proofs.Generation.Overwrite

/-! # What is inspected and what is generated

A widget is looked up by its name, with or without its mark, and the first one
counts. So a widget is found under its own name unless an earlier one has that
name behind the mark. What is shown for the widget that is found is what a run
makes its module from.
-/

namespace VueWrap

theorem Value.equal_str_iff (v : Value) (s : String) : v.equal (.str s) = true ↔ v = .str s := by
  cases v <;> simp [Value.equal, Value.same, Value.number?]

namespace Metadata

variable {m : Metadata} {w w' : Widget} {name : String} {before after : List Widget}

/-- The widget is found under a name: it has that name, or that name behind the mark. -/
def Answers (w : Widget) (name : String) : Prop :=
  w.name = .str name ∨ w.name = .str (mark ++ name)

/-- The first widget that answers is found. -/
theorem widget?_eq_some_iff : m.widget? (.str name) = some w ↔ Answers w name ∧
    ∃ before after, m.widgets = before ++ w :: after ∧ ∀ w' ∈ before, ¬ Answers w' name := by
  have hanswers : ∀ w : Widget, (w.name.equal (.str name) ||
      w.name.equal (.str (mark ++ Value.display (.str name)))) = true ↔ Answers w name := by
    intro w
    rw [Bool.or_eq_true, Value.equal_str_iff, Value.equal_str_iff, Value.display_str, Answers]
  have hnot : ∀ w : Widget, (!(w.name.equal (.str name) ||
      w.name.equal (.str (mark ++ Value.display (.str name))))) = true ↔ ¬ Answers w name := by
    intro w
    rw [Bool.not_eq_true', ← Bool.not_eq_true, hanswers]
  simp only [widget?, List.find?_eq_some_iff_append, hanswers, hnot]

theorem ne_of_pairwise (hnames : m.widgets.Pairwise fun w w' => w.name.equal w'.name = false)
    (hsplit : m.widgets = before ++ w :: after) (hname : w.name = .str name) :
    ∀ w' ∈ before, w'.name ≠ .str name := by
  rw [hsplit, List.pairwise_append] at hnames
  intro w' hw' hname'
  have hne := hnames.2.2 w' hw' w List.mem_cons_self
  rw [hname, hname', (Value.equal_str_iff _ _).mpr rfl] at hne
  cases hne

variable (hnames : m.widgets.Pairwise fun w w' => w.name.equal w'.name = false)
  (hsplit : m.widgets = before ++ w :: after) (hname : w.name = .str name)
include hnames hsplit hname

/-- An earlier widget with the name behind the mark is found in its place. -/
theorem widget?_of_marked (hw' : w' ∈ before) (hmarked : w'.name = .str (mark ++ name)) :
    m.widget? (.str name) = some w' := by
  obtain ⟨front, back, rfl⟩ := List.append_of_mem hw'
  have hsplit' : m.widgets = front ++ w' :: (back ++ w :: after) := by
    rw [hsplit, List.append_assoc, List.cons_append]
  have hfront := ne_of_pairwise hnames hsplit' hmarked
  have hbefore := ne_of_pairwise hnames hsplit hname
  refine widget?_eq_some_iff.mpr ⟨Or.inr hmarked, front, _, hsplit', fun x hx h => ?_⟩
  rcases h with h | h
  · exact hbefore x (List.mem_append_left _ hx) h
  · exact hfront x hx h

/-- A widget is found under its own name unless an earlier one has that name behind the mark. -/
theorem widget?_own_iff :
    m.widget? (.str name) = some w ↔ ∀ w' ∈ before, w'.name ≠ .str (mark ++ name) := by
  have hbefore := ne_of_pairwise hnames hsplit hname
  constructor
  · intro h w' hw' hmarked
    have hfound := widget?_of_marked hnames hsplit hname hw' hmarked
    cases h.symm.trans hfound
    exact hbefore w hw' hname
  · intro hunmarked
    refine widget?_eq_some_iff.mpr ⟨Or.inl hname, before, after, hsplit, fun w' hw' h => ?_⟩
    rcases h with h | h
    · exact hbefore w' hw' h
    · exact hunmarked w' hw' h

end Metadata

namespace Generation

variable {c : Context} {g : Registry} {m : Metadata} {w : Widget} {before after : List Widget}
  {x : Except Failure ComponentFile}

/-- The step that writes the module of a component, if it can be had. -/
def fileStep (c : Context) (x : Except Failure ComponentFile) : Step :=
  match x, asPath c.settings.componentsDir with
  | .error e, _ => .blocked e
  | .ok _, .error e => .blocked e
  | .ok file, .ok dir => .write (.str (Path.join dir file.fileName))
      (Module.componentDocument c.templates c.settings.package c.settings.version
        c.settings.reexports file.component)

theorem widgetStep_eq_fileStep (c : Context) (g : Registry) (w : Widget) :
    widgetStep c g w = fileStep c (Mapping.widget c.resolver g (places c.settings) w).result := by
  unfold widgetStep moduleOf fileStep
  cases (Mapping.widget c.resolver g (places c.settings) w).result with
  | error e => rfl
  | ok file =>
    cases asPath c.settings.componentsDir <;> rfl

def widgetSteps (c : Context) (g : Registry) (ws : List Widget) : List Step :=
  ws.flatMap fun w => widgetStep c g w :: entrySteps c g w

def laterSteps (c : Context) (g : Registry) (m : Metadata) (w : Widget) (after : List Widget) :
    List Step :=
  entrySteps c g w ++ widgetSteps c g after ++ indexStep c g m.widgets :: sharedSteps c m

/-- The runs in the context make the module of `w`, which stands between `before` and `after`, from
the component `x`, or fail for want of it. -/
structure MakesFrom (c : Context) (m : Metadata) (before : List Widget) (w : Widget)
    (after : List Widget) (x : Except Failure ComponentFile) : Prop where
  unregistered : ∀ e, Registry.ofList m.types = .error e →
    x = .error e ∧ schedule c m = [.blocked e]
  mapped : ∀ g, Registry.ofList m.types = .ok g →
    x = (Mapping.widget c.resolver g (places c.settings) w).result
  scheduled : ∀ g, Registry.ofList m.types = .ok g →
    schedule c m = widgetSteps c g before ++ fileStep c x :: laterSteps c g m w after
  written : ∀ t, Succeeds (generate c m t).2.result → ∃ g file t₁ t₂,
    Registry.ofList m.types = .ok g ∧ x = .ok file ∧ Performed t (widgetSteps c g before) t₁ ∧
      (fileStep c (.ok file)).Does t₁ t₂ ∧
      Performed t₂ (laterSteps c g m w after) (generate c m t).1

theorem makesFrom_of_mapped (hsplit : m.widgets = before ++ w :: after)
    (hx : x = Registry.ofList m.types >>= fun g =>
      (Mapping.widget c.resolver g (places c.settings) w).result) :
    MakesFrom c m before w after x := by
  have hmapped : ∀ g, Registry.ofList m.types = .ok g →
      x = (Mapping.widget c.resolver g (places c.settings) w).result := by
    intro g hg
    rw [hx, hg]
    rfl
  have hscheduled : ∀ g, Registry.ofList m.types = .ok g →
      schedule c m = widgetSteps c g before ++ fileStep c x :: laterSteps c g m w after := by
    intro g hg
    rw [schedule_of_registry hg, laterSteps, widgetSteps, widgetSteps, hmapped g hg,
      ← widgetStep_eq_fileStep]
    generalize indexStep c g m.widgets = index
    rw [hsplit, List.flatMap_append, List.flatMap_cons]
    simp
  refine ⟨?_, hmapped, hscheduled, ?_⟩
  · intro e he
    rw [hx, he, schedule, he]
    exact ⟨rfl, rfl⟩
  · rintro t ⟨r, hr⟩
    obtain ⟨hp, g, hreport⟩ := performed_of_generate hr
    rw [hscheduled g hreport.registry] at hp
    obtain ⟨t₁, t₂, hbefore, hdoes, hafter⟩ := hp.split
    cases x with
    | error e => cases hdoes
    | ok file => exact ⟨g, file, t₁, t₂, hreport.registry, rfl, hbefore, hdoes, hafter⟩

end Generation

namespace Command

open Generation (places MakesFrom)

variable {m : Metadata} {w : Widget} {name : String}

/-- Looking up a widget gives its component. -/
theorem resultOf_lookUp (s : Settings) (world : World)
    (h : m.widget? (.str name) = some w) : resultOf (lookUp s m name) world =
      Registry.ofList m.types >>= fun g => (Mapping.widget .standard g (places s) w).result := by
  rw [lookUp, h]
  exact resultOf_bind_attempt _ _ world

/-- A widget is shown under its own name unless an earlier one has that name behind the mark: then
that one is shown. What is shown for a widget is what a run makes its module from. -/
theorem lookUp_shows_generated {before after : List Widget}
    (hnames : m.widgets.Pairwise fun w w' => w.name.equal w'.name = false)
    (hsplit : m.widgets = before ++ w :: after) (hname : w.name = .str name) :
    (m.widget? (.str name) = some w ↔ ∀ w' ∈ before, w'.name ≠ .str (Metadata.mark ++ name)) ∧
    (∀ w' ∈ before, w'.name = .str (Metadata.mark ++ name) → m.widget? (.str name) = some w') ∧
    ∀ (c : Generation.Context) (world : World) {before' after' : List Widget} {w' : Widget},
      c.resolver = .standard → m.widgets = before' ++ w' :: after' →
      m.widget? (.str name) = some w' →
        MakesFrom c m before' w' after' (resultOf (lookUp c.settings m name) world) := by
  constructor
  · exact Metadata.widget?_own_iff hnames hsplit hname
  constructor
  · intro w' hw' hmarked
    exact Metadata.widget?_of_marked hnames hsplit hname hw' hmarked
  · intro c world before' after' w' hresolver hsplit' hfound
    apply Generation.makesFrom_of_mapped hsplit'
    rw [resultOf_lookUp c.settings world hfound, hresolver]

open Generation (bareMetadata bareTree bareWidget sharingContext)

/-- A marked widget behind the one that has its name without the mark. -/
theorem lookUp_shows_marked_button :
    (bareMetadata ["Button", "dxButton"] []).widget? (.str "dxButton") =
        some (bareWidget "dxButton") ∧
      MakesFrom sharingContext (bareMetadata ["Button", "dxButton"] []) [bareWidget "Button"]
        (bareWidget "dxButton") []
        (resultOf (lookUp sharingContext.settings (bareMetadata ["Button", "dxButton"] [])
          "dxButton") ⟨bareTree, fun _ => .timedOut, [], []⟩) := by
  have hnames : (bareMetadata ["Button", "dxButton"] []).widgets.Pairwise
      fun w w' => w.name.equal w'.name = false := by decide
  have hsplit : (bareMetadata ["Button", "dxButton"] []).widgets =
      [bareWidget "Button"] ++ bareWidget "dxButton" :: [] := rfl
  have hshown := lookUp_shows_generated hnames hsplit rfl
  have hfound := hshown.1.mpr (by simp [bareWidget, Metadata.mark])
  exact ⟨hfound, hshown.2.2 sharingContext _ rfl hsplit hfound⟩

/-- A marked widget before the one that has its name without the mark hides it. -/
theorem button_behind_marked_button_is_hidden :
    (bareMetadata ["dxButton", "Button"] []).widgets.Pairwise
        (fun w w' => w.name.equal w'.name = false) ∧
      bareWidget "Button" ∈ (bareMetadata ["dxButton", "Button"] []).widgets ∧
      (bareWidget "Button").name = .str "Button" ∧
      (bareMetadata ["dxButton", "Button"] []).widget? (.str "Button") ≠
        some (bareWidget "Button") := by
  have hfirst : ((bareMetadata ["dxButton", "Button"] []).widget? (.str "Button")).map Widget.name =
      some (.str "dxButton") := rfl
  refine ⟨by decide, List.mem_cons_of_mem _ List.mem_cons_self, rfl, fun h => ?_⟩
  simp [h, bareWidget] at hfirst

end Command

end VueWrap
