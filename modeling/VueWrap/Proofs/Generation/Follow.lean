import Mathlib.Data.List.Forall2
import VueWrap.Proofs.Generation.Schedule

/-! # Computations that follow a schedule

The actions of a computation are performed on a tree up to the first one that
fails. `Follows` says that what happens is what a list of steps describes: all
steps are taken and the result is as stated, or they are stopped at the step
that fails. The rules below take a computation apart from its first action on.
-/

namespace VueWrap.Generation

variable {α β : Type} {t t' : FileTree} {x : Plan α} {f : α → Plan β} {ss ss' : List Step}
  {post : β → Prop} {e : Failure}

theorem run_append_of_failure {as : List Action} (h : (run t as).failure = some e)
    (bs : List Action) : run t (as ++ bs) = run t as := by
  induction as generalizing t with
  | nil => cases h
  | cons a as ih =>
    simp only [List.cons_append, run] at h ⊢
    split
    · rfl
    · rename_i t₁ ha
      rw [ha] at h
      rw [ih h]

theorem run_append {as : List Action} (h : (run t as).failure = none) (bs : List Action) :
    (run t (as ++ bs)).tree = (run (run t as).tree bs).tree ∧
      (run t (as ++ bs)).failure = (run (run t as).tree bs).failure := by
  induction as generalizing t with
  | nil => exact ⟨rfl, rfl⟩
  | cons a as ih =>
    simp only [List.cons_append, run] at h ⊢
    split at h
    · cases h
    · exact ih h

def exec (t : FileTree) (x : Plan α) : FileTree × Except Failure α :=
  ((run t x.trace).tree, match (run t x.trace).failure with
    | some e => .error e
    | none => x.result)

theorem exec_bind (t : FileTree) (x : Plan α) (f : α → Plan β) :
    exec t (x >>= f) = match exec t x with
      | (t', .ok a) => exec t' (f a)
      | (t', .error e) => (t', .error e) := by
  simp only [exec, Traced.trace_bind, Traced.result_bind]
  cases x.result with
  | error e =>
    rw [List.append_nil]
    cases (run t x.trace).failure <;> rfl
  | ok a =>
    cases hf : (run t x.trace).failure with
    | some e => simp only [run_append_of_failure hf, hf]
    | none =>
      obtain ⟨htree, hfailure⟩ := run_append hf (f a).trace
      simp only [htree, hfailure]
      rfl

theorem generate_eq_exec (c : Context) (m : Metadata) (t : FileTree) :
    (generate c m t).1 = (exec t (plan c m)).1 ∧
      (generate c m t).2.result = (exec t (plan c m)).2 := ⟨rfl, rfl⟩

def Silent (x : Plan α) : Prop := ∀ a ∈ x.trace, ∃ r, a = .note r

theorem run_notes {as : List Action} (h : ∀ a ∈ as, ∃ r, a = Action.note r) :
    (run t as).tree = t ∧ (run t as).failure = none := by
  induction as with
  | nil => exact ⟨rfl, rfl⟩
  | cons a as ih =>
    obtain ⟨r, rfl⟩ := h a List.mem_cons_self
    exact ih fun b hb => h b (List.mem_cons_of_mem _ hb)

theorem exec_of_silent (h : Silent x) : exec t x = (t, x.result) := by
  obtain ⟨htree, hfailure⟩ := run_notes (t := t) h
  simp only [exec, htree, hfailure]

theorem silent_lift (r : Except Failure α) : Silent (Traced.lift r) := by
  intro a ha
  cases ha

theorem silent_note (r : Log.Record) : Silent (Traced.emit (.note r)) := by
  intro a ha
  exact ⟨r, List.mem_singleton.mp ha⟩

theorem silent_retrace (x : Traced Log.Record α) : Silent (x.retrace Action.note) := by
  intro a ha
  obtain ⟨r, _, rfl⟩ := List.mem_map.mp ha
  exact ⟨r, rfl⟩

/-- How a computation that follows steps ends: after all of them, or at one that fails. -/
inductive Ends (t : FileTree) (ss : List Step) (post : β → Prop) :
    FileTree × Except Failure β → Prop
  | done {t' : FileTree} {b : β} (hp : Performed t ss t') (hb : post b) :
      Ends t ss post (t', .ok b)
  | stopped {t' : FileTree} {e : Failure} (hs : Stopped t ss t' e) : Ends t ss post (t', .error e)

/-- However it ends, the first of the steps have been taken in order. -/
theorem Ends.performed {r : FileTree × Except Failure β} (h : Ends t ss post r) :
    ∃ done rest t₁, ss = done ++ rest ∧ Performed t done t₁ ∧ match r.2 with
      | .ok b => rest = [] ∧ r.1 = t₁ ∧ post b
      | .error e => ∃ s later, rest = s :: later ∧ s.Fails t₁ r.1 e := by
  cases h with
  | done hp hb => exact ⟨ss, [], _, (List.append_nil ss).symm, hp, rfl, rfl, hb⟩
  | stopped hs =>
    obtain ⟨done, s, later, t₁, hsplit, hp, hf⟩ := hs
    exact ⟨done, s :: later, t₁, hsplit, hp, s, later, rfl, hf⟩

/-- What the computation does to every tree is what the steps describe, and a result that it
gives satisfies `post`. -/
def Follows (x : Plan β) (ss : List Step) (post : β → Prop) : Prop :=
  ∀ t, Ends t ss post (exec t x)

theorem follows_pure {b : β} (h : post b) : Follows (pure b) [] post :=
  fun _ => .done .nil h

theorem Ends.imp {post' : β → Prop} {r : FileTree × Except Failure β} (h : Ends t ss post r)
    (himp : ∀ b, post b → post' b) : Ends t ss post' r := by
  cases h with
  | done hp hb => exact .done hp (himp _ hb)
  | stopped hs => exact .stopped hs

theorem Follows.imp {post' : β → Prop} {y : Plan β} (h : Follows y ss post)
    (himp : ∀ b, post b → post' b) : Follows y ss post' :=
  fun t => (h t).imp himp

theorem Ends.after {t₁ : FileTree} {r : FileTree × Except Failure β} (hp : Performed t ss t₁)
    (h : Ends t₁ ss' post r) : Ends t (ss ++ ss') post r := by
  cases h with
  | done hp' hb => exact .done (hp.append hp') hb
  | stopped hs => exact .stopped (.after hp hs)

theorem Follows.bind {mid : α → Prop} (hx : Follows x ss mid)
    (hf : ∀ a, mid a → Follows (f a) ss' post) : Follows (x >>= f) (ss ++ ss') post := by
  intro t
  have ht := hx t
  rw [exec_bind]
  generalize exec t x = r at ht
  cases ht with
  | stopped hs => exact .stopped (hs.append ss')
  | done hp ha => exact (hf _ ha _).after hp

theorem Follows.bind_cons {mid : α → Prop} {s : Step} (hx : Follows x [s] mid)
    (hf : ∀ a, mid a → Follows (f a) ss post) : Follows (x >>= f) (s :: ss) post :=
  hx.bind hf

/-- Records and results that are there are passed over. -/
theorem follows_bind_of_silent {a : α} (hs : Silent x) (hx : x.result = .ok a)
    (hf : Follows (f a) ss post) : Follows (x >>= f) ss post := by
  intro t
  rw [exec_bind, exec_of_silent hs, hx]
  exact hf t

/-- A result that is not there blocks all that comes after it. -/
theorem follows_bind_of_silent_error (hs : Silent x) (hx : x.result = .error e) :
    Follows (x >>= f) (.blocked e :: ss) post := by
  intro t
  rw [exec_bind, exec_of_silent hs, hx]
  exact .stopped (.head .blocked ss)

theorem follows_write_bind {path : String} {d : Module.Document} {f : Unit → Plan β}
    (hf : Follows (f ()) ss post) :
    Follows (Traced.emit (.write (Path.tidy path) d) >>= f) (.write (.str path) d :: ss) post := by
  have hone : Follows (Traced.emit (.write (Path.tidy path) d)) [.write (.str path) d]
      fun _ => True := by
    intro t
    cases hd : d.look t with
    | error e =>
      simp only [exec, Traced.emit, run, Action.perform, hd]
      exact .stopped (.head (.unrendered hd) [])
    | ok text =>
      cases hb : Text.bytes? text with
      | none =>
        simp only [exec, Traced.emit, run, Action.perform, hd,
          FileTree.writeText_of_bytes?_eq_none hb]
        cases hw : t.write (Path.tidy path) .empty with
        | error o => exact .stopped (.head (.unwritable hd hw) [])
        | ok t' => exact .stopped (.head (.emptied hd hb hw) [])
      | some bytes =>
        simp only [exec, Traced.emit, run, Action.perform, hd, FileTree.writeText_of_bytes? hb]
        cases hw : t.write (Path.tidy path) bytes with
        | error o => exact .stopped (.head (.unwritable hd hw) [])
        | ok t' => exact .done (.singleton (.write hd hb hw)) trivial
  exact hone.bind_cons fun _ _ => hf

theorem follows_makeDir_bind {path : String} {f : Unit → Plan β} (hf : Follows (f ()) ss post) :
    Follows (Traced.emit (.makeDir path) >>= f) (.makeDir path :: ss) post := by
  have hone : Follows (Traced.emit (.makeDir path)) [.makeDir path] fun _ => True := by
    intro t
    cases hm : t.makeDir path with
    | error o =>
      simp only [exec, Traced.emit, run, Action.perform, hm]
      exact .stopped (.head (.noDirectory hm) [])
    | ok t' =>
      simp only [exec, Traced.emit, run, Action.perform, hm]
      exact .done (.singleton (.makeDir hm)) trivial
  exact hone.bind_cons fun _ _ => hf

/-- A document that has to have a text before a target fails that is no path. -/
theorem follows_render_fail {target : Value} {d : Module.Document} (ht : asPath target = .error e) :
    Follows (Traced.emit (.render d) >>= fun _ => (Traced.fail e : Plan β))
      [.write target d] post := by
  intro t
  rw [exec_bind]
  cases hd : d.look t with
  | error e =>
    simp only [exec, Traced.emit, run, Action.perform, hd]
    exact .stopped (.head (.unrendered hd) [])
  | ok text =>
    simp only [exec, Traced.emit, Traced.fail, run, Action.perform, hd]
    exact .stopped (.head (.unnamed hd ht) [])

theorem follows_each {g : α → Plan β} {steps : α → List Step} {rel : α → β → Prop}
    (hg : ∀ a, Follows (g a) (steps a) (rel a)) (as : List α) :
    Follows (Traced.each g as) (as.flatMap steps) fun bs => List.Forall₂ rel as bs := by
  induction as with
  | nil => exact follows_pure .nil
  | cons a as ih =>
    rw [List.flatMap_cons]
    refine (hg a).bind fun b hb => ?_
    rw [← List.append_nil (as.flatMap steps)]
    exact ih.bind fun bs hbs => follows_pure (.cons hb hbs)

theorem Follows.exec_of_performed {β : Type} {x : Plan β} {post : β → Prop}
    (h : Follows x ss post) (hp : Performed t ss t') : ∃ b, exec t x = (t', .ok b) := by
  have ht := h t
  generalize exec t x = r at ht
  cases ht with
  | done hp' _ => exact ⟨_, by rw [hp.unique hp']⟩
  | stopped hs => exact absurd hs hp.not_stopped

end VueWrap.Generation
