import VueWrap.Proofs.Command.Settings
import VueWrap.Proofs.Source.Requests

/-! # What the steps of a command touch

The world after a sequence of steps is the world after the last step that is
taken. Most steps are quiet: they print lines and leave records, and neither
change a file nor ask the network. Loading metadata asks what loading its source
asks for, and generating changes what the generation changes.
-/

namespace VueWrap.Command

variable {α β : Type} {x : Act α} {f : α → Act β} {w w' w'' : World}

def worldAfter (x : Act α) (w : World) : World := (x.run.run w).2

theorem worldAfter_bind (x : Act α) (f : α → Act β) (w : World) :
    worldAfter (x >>= f) w = match resultOf x w with
      | .ok a => worldAfter (f a) (worldAfter x w)
      | .error _ => worldAfter x w := by
  rw [worldAfter, run_bind, resultOf, worldAfter]
  rcases x.run.run w with ⟨e | a, w'⟩ <;> rfl

theorem worldAfter_attempt_bind (r : Except Failure α) (f : α → Act β) (w : World) :
    worldAfter (attempt r >>= f) w = match r with
      | .ok a => worldAfter (f a) w
      | .error _ => w := worldAfter_bind _ _ _

theorem worldAfter_get_bind (f : World → Act β) (w : World) :
    worldAfter (get >>= f) w = worldAfter (f w) w := rfl

theorem run_tryCatch (x : Act α) (h : Failure → Act α) (w : World) :
    (tryCatch x h).run.run w = match x.run.run w with
      | (.ok a, w') => (.ok a, w')
      | (.error e, w') => (h e).run.run w' := by
  show (ExceptT.tryCatch x h).run.run w = _
  show (x.run >>= _ : StateM World _).run w = _
  rw [StateT.run_bind]
  show (match x.run.run w with | (r, w') => _) = _
  rcases x.run.run w with ⟨e | a, w'⟩ <;> rfl

theorem worldAfter_tryCatch (x : Act α) (h : Failure → Act α) (w : World) :
    worldAfter (tryCatch x h) w = match resultOf x w with
      | .ok _ => worldAfter x w
      | .error e => worldAfter (h e) (worldAfter x w) := by
  rw [worldAfter, run_tryCatch, resultOf, worldAfter]
  rcases x.run.run w with ⟨e | a, w'⟩ <;> rfl

def World.asked (w : World) : List (String × Value) := w.events.filterMap Event.request?

/-- The worlds may differ in what is printed and recorded, and in nothing else. -/
structure World.Still (w w' : World) : Prop where
  tree : w'.tree = w.tree
  network : w'.network = w.network
  asked : w'.asked = w.asked

theorem World.Still.refl (w : World) : w.Still w := ⟨rfl, rfl, rfl⟩

theorem World.Still.trans (h : w.Still w') (h' : w'.Still w'') : w.Still w'' :=
  ⟨h'.tree.trans h.tree, h'.network.trans h.network, h'.asked.trans h.asked⟩

/-- The step changes no file and asks for nothing. -/
def Quiet (x : Act α) : Prop := ∀ w : World, w.Still (worldAfter x w)

theorem quiet_attempt (r : Except Failure α) : Quiet (attempt r) := fun w => .refl w

theorem quiet_pure (a : α) : Quiet (pure a) := fun w => .refl w

theorem quiet_throw (e : Failure) : Quiet (throw e : Act α) := fun w => .refl w

theorem quiet_get : Quiet (get : Act World) := fun w => .refl w

/-- Quiet steps after a step touch no more than it does. -/
theorem still_bind (hf : ∀ a, Quiet (f a)) (w : World) :
    (worldAfter x w).Still (worldAfter (x >>= f) w) := by
  rw [worldAfter_bind]
  split
  · exact hf _ _
  · exact .refl _

theorem Quiet.bind (hx : Quiet x) (hf : ∀ a, Quiet (f a)) : Quiet (x >>= f) :=
  fun w => (hx w).trans (still_bind hf w)

theorem quiet_printLines (ls : List String) : Quiet (printLines ls) := fun _ => ⟨rfl, rfl, rfl⟩

theorem quiet_say (marked : String) : Quiet (say marked) :=
  (quiet_attempt _).bind fun ls => quiet_printLines ls

theorem quiet_printTable (t : Console.Table) : Quiet (printTable t) :=
  (quiet_attempt _).bind fun ls => quiet_printLines ls

theorem quiet_forIn {γ : Type} {body : γ → PUnit → Act (ForInStep PUnit)}
    (hbody : ∀ c u, Quiet (body c u)) (cs : List γ) : Quiet (forIn cs PUnit.unit body) := by
  induction cs with
  | nil =>
    rw [List.forIn_nil]
    exact quiet_pure _
  | cons c cs ih =>
    rw [List.forIn_cons]
    refine (hbody c _).bind fun r => ?_
    cases r with
    | done u => exact quiet_pure u
    | yield u => exact ih

theorem asked_follow (x : Traced Event α) (w : World) :
    (worldAfter (follow x) w).asked = w.asked ++ x.requests :=
  List.filterMap_append

/-- Records in the log are no requests. -/
theorem quiet_followRecords (x : Traced Log.Record α) : Quiet (followRecords x) := by
  intro w
  refine ⟨rfl, rfl, ?_⟩
  rw [followRecords, asked_follow, Traced.requests_retrace_note, List.append_nil]

theorem quiet_settings (g : Given) : Quiet (settings g) := by
  refine quiet_get.bind fun _ => (quiet_attempt _).bind fun s => (quiet_attempt _).bind fun ws => ?_
  exact (quiet_forIn (fun _ _ => (quiet_say _).bind fun _ => quiet_pure _) ws).bind fun _ =>
    quiet_pure s

theorem quiet_lookUp (s : Settings) (m : Metadata) (name : String) : Quiet (lookUp s m name) := by
  rw [lookUp]
  split
  · exact quiet_throw _
  · exact (quiet_attempt _).bind fun _ => quiet_followRecords _

theorem quiet_tellError (message : String) : Quiet (tellError message) :=
  (quiet_say _).bind fun _ => quiet_pure _

theorem quiet_tellGeneration (message : String) : Quiet (tellGeneration message) :=
  (quiet_say _).bind fun _ => (quiet_followRecords _).bind fun _ => quiet_pure _

theorem quiet_tell (e : Failure) : Quiet (tell e) := by
  unfold tell
  split
  · exact quiet_tellError _
  · exact quiet_tellError _
  · exact quiet_tellError _
  · exact quiet_tellGeneration _
  · exact quiet_tellGeneration _
  · exact quiet_throw _

theorem resultOf_task (label : String) (x : Act α) (w : World) :
    resultOf (task label x) w = resultOf x w := by
  rw [resultOf, task, run_tryCatch, resultOf]
  rcases x.run.run w with ⟨e | a, w'⟩ <;> rfl

/-- Showing a task touches nothing more than the task. -/
theorem still_task (label : String) (x : Act α) (w : World) :
    (worldAfter x w).Still (worldAfter (task label x) w) := by
  rw [task, worldAfter_tryCatch]
  split
  · exact .refl _
  · exact ((quiet_printLines _).bind fun _ => quiet_throw _) _

def Given.loads (g : Given) (t : FileTree) (net : Network) : List (String × Value) :=
  match checkUrl g.url with
  | .error _ => []
  | .ok _ => (Source.load t net Source.usualTimeout g.source).requests

theorem metadata_touches (g : Given) (w : World) :
    (worldAfter (metadata g) w).tree = w.tree ∧ (worldAfter (metadata g) w).network = w.network ∧
      (worldAfter (metadata g) w).asked = w.asked ++ g.loads w.tree w.network := by
  rw [metadata, worldAfter_attempt_bind, Given.loads]
  simp only [worldAfter_get_bind]
  cases checkUrl g.url with
  | error e => exact ⟨rfl, rfl, (List.append_nil _).symm⟩
  | ok u => exact ⟨rfl, rfl, asked_follow _ w⟩

theorem resultOf_metadata (g : Given) (w : World) :
    resultOf (metadata g) w = checkUrl g.url >>= fun _ =>
      (Source.load w.tree w.network Source.usualTimeout g.source).result := by
  rw [metadata, resultOf_bind_attempt]
  rfl

/-- The metadata depends on the files and the network alone. -/
theorem resultOf_metadata_of_still (h : w.Still w') (g : Given) :
    resultOf (metadata g) w' = resultOf (metadata g) w := by
  rw [resultOf_metadata, resultOf_metadata, h.tree, h.network]

theorem generateHere_touches (s : Settings) (m : Metadata) (w : World) :
    (worldAfter (generateHere s m) w).tree =
        (Generation.generate ⟨w.tree.here, .builtIn, .standard, s⟩ m w.tree).1 ∧
      (worldAfter (generateHere s m) w).asked = w.asked := by
  refine ⟨rfl, ?_⟩
  show (worldAfter (followRecords _) _).asked = _
  exact (quiet_followRecords _ _).asked

end VueWrap.Command
