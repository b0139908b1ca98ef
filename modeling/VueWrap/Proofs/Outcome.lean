import VueWrap.Metadata

/-! # What a computation gives

A computation gives a value with a property if it does not fail and its value has
the property. A sequence of computations gives what its last one gives from the
values of the others, and it fails with what one of them fails with.
-/

namespace VueWrap

variable {ε α β : Type} {x : Except ε α} {f : α → Except ε β} {P Q : α → Prop} {R : β → Prop}

/-- The computation does not fail, and its value satisfies `P`. -/
def Gives (x : Except ε α) (P : α → Prop) : Prop := ∃ a, x = .ok a ∧ P a

def Succeeds (x : Except ε α) : Prop := ∃ a, x = .ok a

theorem gives_ok_iff {a : α} : Gives (.ok a : Except ε α) P ↔ P a := by
  constructor
  · rintro ⟨b, hb, h⟩
    rwa [Except.ok.inj hb]
  · exact fun h => ⟨a, rfl, h⟩

theorem not_gives_error {e : ε} : ¬ Gives (.error e : Except ε α) P := by
  rintro ⟨a, ha, -⟩
  cases ha

theorem Gives.imp (h : Gives x P) (hPQ : ∀ a, P a → Q a) : Gives x Q := by
  obtain ⟨a, hx, ha⟩ := h
  exact ⟨a, hx, hPQ a ha⟩

theorem gives_bind_iff : Gives (x >>= f) R ↔ Gives x fun a => Gives (f a) R := by
  cases x with
  | error e => exact ⟨fun h => absurd h not_gives_error, fun h => absurd h not_gives_error⟩
  | ok a =>
    rw [gives_ok_iff]
    exact Iff.rfl

theorem Gives.bind (hx : Gives x P) (hf : ∀ a, P a → Gives (f a) R) : Gives (x >>= f) R :=
  gives_bind_iff.mpr (hx.imp hf)

theorem gives_const_iff {p : Prop} : Gives x (fun _ => p) ↔ Succeeds x ∧ p := by
  constructor
  · rintro ⟨a, hx, hp⟩
    exact ⟨⟨a, hx⟩, hp⟩
  · rintro ⟨⟨a, hx⟩, hp⟩
    exact ⟨a, hx, hp⟩

theorem Succeeds.gives (h : Succeeds x) : Gives x fun _ => True :=
  gives_const_iff.mpr ⟨h, trivial⟩

theorem gives_map_iff {f : α → β} : Gives (x.map f) R ↔ Gives x fun a => R (f a) := by
  cases x with
  | error e => exact ⟨fun h => absurd h not_gives_error, fun h => absurd h not_gives_error⟩
  | ok a => exact gives_ok_iff.trans (gives_ok_iff (P := fun a => R (f a))).symm

theorem map_eq_ok_iff {f : α → β} {b : β} : x.map f = .ok b ↔ ∃ a, x = .ok a ∧ f a = b := by
  cases x with
  | error e =>
    constructor
    · rintro ⟨⟩
    · rintro ⟨a, ⟨⟩, -⟩
  | ok a =>
    constructor
    · rintro ⟨⟩
      exact ⟨a, rfl, rfl⟩
    · rintro ⟨_, ⟨⟩, rfl⟩
      rfl

theorem bind_eq_ok_iff {b : β} : x >>= f = .ok b ↔ ∃ a, x = .ok a ∧ f a = .ok b := by
  cases x with
  | error e =>
    constructor
    · rintro ⟨⟩
    · rintro ⟨a, ⟨⟩, -⟩
  | ok a =>
    constructor
    · intro h
      exact ⟨a, rfl, h⟩
    · rintro ⟨_, ⟨⟩, h⟩
      exact h

theorem succeeds_ok {a : α} : Succeeds (.ok a : Except ε α) := ⟨a, rfl⟩

@[simp] theorem succeeds_pure (a : α) : Succeeds (pure a : Except ε α) := ⟨a, rfl⟩

theorem not_succeeds_error {e : ε} : ¬ Succeeds (.error e : Except ε α) := by
  rintro ⟨a, ha⟩
  cases ha

theorem succeeds_bind_iff : Succeeds (x >>= f) ↔ Gives x fun a => Succeeds (f a) := by
  cases x with
  | error e => exact ⟨fun h => absurd h not_succeeds_error, fun h => absurd h not_gives_error⟩
  | ok a =>
    rw [gives_ok_iff]
    exact Iff.rfl

theorem succeeds_map_iff {f : α → β} : Succeeds (x.map f) ↔ Succeeds x := by
  cases x with
  | error e => exact ⟨fun h => absurd h not_succeeds_error, fun h => absurd h not_succeeds_error⟩
  | ok a => exact ⟨fun _ => succeeds_ok, fun _ => succeeds_ok⟩

theorem mapError_eq_ok_iff {ε' : Type} {f : ε → ε'} {a : α} :
    x.mapError f = .ok a ↔ x = .ok a := by
  cases x with
  | error e => constructor <;> rintro ⟨⟩
  | ok b =>
    constructor
    · rintro ⟨⟩
      rfl
    · rintro ⟨⟩
      rfl

theorem succeeds_mapError_iff {ε' : Type} {f : ε → ε'} :
    Succeeds (x.mapError f) ↔ Succeeds x := by
  cases x with
  | error e => exact ⟨fun h => absurd h not_succeeds_error, fun h => absurd h not_succeeds_error⟩
  | ok a => exact ⟨fun _ => succeeds_ok, fun _ => succeeds_ok⟩

/-- A computation for every item gives values with a property if each gives one. -/
theorem gives_mapM_iff {as : List α} :
    Gives (as.mapM f) (fun bs => ∀ b ∈ bs, R b) ↔ ∀ a ∈ as, Gives (f a) R := by
  induction as with
  | nil =>
    rw [List.mapM_nil]
    exact ⟨fun _ _ ha => absurd ha List.not_mem_nil,
      fun _ => gives_ok_iff.mpr fun _ hb => absurd hb List.not_mem_nil⟩
  | cons a as ih =>
    rw [List.mapM_cons, gives_bind_iff, List.forall_mem_cons, ← ih]
    constructor
    · rintro ⟨b, hb, h⟩
      obtain ⟨bs, hbs, h⟩ := gives_bind_iff.mp h
      have hall := gives_ok_iff.mp h
      exact ⟨⟨b, hb, hall b List.mem_cons_self⟩, bs, hbs, fun c hc =>
        hall c (List.mem_cons_of_mem b hc)⟩
    · rintro ⟨⟨b, hb, hR⟩, bs, hbs, hall⟩
      refine ⟨b, hb, gives_bind_iff.mpr ⟨bs, hbs, gives_ok_iff.mpr ?_⟩⟩
      exact List.forall_mem_cons.mpr ⟨hR, hall⟩

theorem succeeds_mapM_iff {as : List α} : Succeeds (as.mapM f) ↔ ∀ a ∈ as, Succeeds (f a) := by
  have h : Gives (as.mapM f) (fun bs => ∀ b ∈ bs, True) ↔ ∀ a ∈ as, Gives (f a) fun _ => True :=
    gives_mapM_iff
  simpa [gives_const_iff] using h

/-- The computation may fail, but a value that it gives satisfies `P`. -/
def GivesOnly (x : Except ε α) (P : α → Prop) : Prop := ∀ a, x = .ok a → P a

theorem givesOnly_ok {a : α} (h : P a) : GivesOnly (.ok a : Except ε α) P := by
  rintro _ ⟨⟩
  exact h

theorem givesOnly_error {e : ε} : GivesOnly (.error e : Except ε α) P := by
  rintro a ⟨⟩

theorem givesOnly_true : GivesOnly x fun _ => True := fun _ _ => trivial

theorem GivesOnly.bind (hx : GivesOnly x P) (hf : ∀ a, P a → GivesOnly (f a) R) :
    GivesOnly (x >>= f) R := by
  cases x with
  | error e => exact givesOnly_error
  | ok a => exact hf a (hx a rfl)

theorem GivesOnly.bind_of_forall (hf : ∀ a, GivesOnly (f a) R) : GivesOnly (x >>= f) R :=
  givesOnly_true.bind fun a _ => hf a

theorem givesOnly_mapM {as : List α} (hf : ∀ a ∈ as, GivesOnly (f a) R) :
    GivesOnly (as.mapM f) fun bs => ∀ b ∈ bs, R b := by
  induction as with
  | nil => exact givesOnly_ok fun b hb => absurd hb List.not_mem_nil
  | cons a as ih =>
    rw [List.forall_mem_cons] at hf
    rw [List.mapM_cons]
    refine hf.1.bind fun b hb => (ih hf.2).bind fun bs hbs => ?_
    exact givesOnly_ok (List.forall_mem_cons.mpr ⟨hb, hbs⟩)

/-- Every failure of the computation satisfies `E`. -/
def FailsOnly (E : ε → Prop) (x : Except ε α) : Prop := ∀ e, x = .error e → E e

section Failing

variable {E : ε → Prop}

theorem failsOnly_ok {a : α} : FailsOnly E (.ok a : Except ε α) := by
  rintro e ⟨⟩

theorem failsOnly_error {e : ε} (h : E e) : FailsOnly E (.error e : Except ε α) := by
  rintro _ ⟨⟩
  exact h

theorem FailsOnly.bind (hx : FailsOnly E x) (hf : ∀ a, FailsOnly E (f a)) :
    FailsOnly E (x >>= f) := by
  cases x with
  | error e => exact failsOnly_error (hx e rfl)
  | ok a => exact hf a

theorem FailsOnly.map {f : α → β} (hx : FailsOnly E x) : FailsOnly E (x.map f) := by
  cases x with
  | error e => exact failsOnly_error (hx e rfl)
  | ok a => exact failsOnly_ok

theorem map_eq_error_iff {f : α → β} {e : ε} : x.map f = .error e ↔ x = .error e := by
  cases x with
  | error e' => simp [Except.map]
  | ok a => simp [Except.map]

end Failing

end VueWrap
