/-! # Texts that tell items apart

The text of an item sets it apart if no other item has a text with the same
beginning, whatever follows. Items in brackets are set apart as a list if each of
them is: the commas between them and the bracket behind them end an item, and no
item begins with the bracket.
-/

namespace VueWrap

namespace Text

variable {α : Type} {f : α → List Char} {P : α → Prop} {E : List Char → Prop} {p : Char → Bool}
  {a : α} {as : List α} {cs ds rest rest' : List Char} {left right sep : Char}

/-- Before texts of the kind `E`, the text of `a` does not begin like that of any other item with
`P`. -/
def SetsApart (f : α → List Char) (P : α → Prop) (E : List Char → Prop) (a : α) : Prop :=
  ∀ ⦃b : α⦄ ⦃rest rest' : List Char⦄, P b → E rest → E rest' → f a ++ rest = f b ++ rest' →
    a = b ∧ rest = rest'

/-- The text begins with no character that satisfies `p`. -/
def EndsRun (p : Char → Bool) (rest : List Char) : Prop := ∀ c ∈ rest.head?, p c = false

theorem endsRun_cons {c : Char} (hc : p c = false) (cs : List Char) : EndsRun p (c :: cs) := by
  rintro _ ⟨⟩
  exact hc

/-- A run of characters ends where they end. -/
theorem append_inj_of_endsRun (hcs : ∀ c ∈ cs, p c = true) (hds : ∀ d ∈ ds, p d = true)
    (hrest : EndsRun p rest) (hrest' : EndsRun p rest') (h : cs ++ rest = ds ++ rest') :
    cs = ds ∧ rest = rest' := by
  induction cs generalizing ds with
  | nil =>
    cases ds with
    | nil => exact ⟨rfl, h⟩
    | cons d ds =>
      have hd : rest = d :: (ds ++ rest') := h
      rw [hd] at hrest
      cases (hds d List.mem_cons_self).symm.trans (hrest d rfl)
  | cons c cs ih =>
    obtain ⟨hc, hcs⟩ := List.forall_mem_cons.mp hcs
    cases ds with
    | nil =>
      have hc' : rest' = c :: (cs ++ rest) := h.symm
      rw [hc'] at hrest'
      cases hc.symm.trans (hrest' c rfl)
    | cons d ds =>
      obtain ⟨rfl, htail⟩ := List.cons.inj h
      obtain ⟨rfl, hrests⟩ := ih hcs (List.forall_mem_cons.mp hds).2 htail
      exact ⟨rfl, hrests⟩

/-- Items with a mark before each of them are set apart where no mark follows. -/
theorem SetsApart.flatMap (gap : List Char) (hE : ∀ cs, E (sep :: cs))
    (has : ∀ a ∈ as, SetsApart f P E a) :
    SetsApart (fun as : List α => as.flatMap fun a => sep :: (gap ++ f a)) (fun bs => ∀ b ∈ bs, P b)
      (fun rest => E rest ∧ rest.head? ≠ some sep) as := by
  intro bs rest rest' (hbs : ∀ b ∈ bs, P b) hrest hrest' h
  -- What stands behind an item begins with a mark or is the rest.
  have hnext (l : List α) {rest : List Char} (hrest : E rest) :
      E ((l.flatMap fun a => sep :: (gap ++ f a)) ++ rest) := by
    cases l with
    | nil => exact hrest
    | cons a l => exact hE _
  induction as generalizing bs with
  | nil =>
    cases bs with
    | nil => exact ⟨rfl, h⟩
    | cons b bs =>
      have hrest_eq : rest = sep :: _ := h
      rw [hrest_eq] at hrest
      exact absurd rfl hrest.2
  | cons a as ih =>
    obtain ⟨ha, has⟩ := List.forall_mem_cons.mp has
    cases bs with
    | nil =>
      have hrest_eq : rest' = sep :: _ := h.symm
      rw [hrest_eq] at hrest'
      exact absurd rfl hrest'.2
    | cons b bs =>
      obtain ⟨hb, hbs'⟩ := List.forall_mem_cons.mp hbs
      simp only [List.flatMap_cons, List.cons_append, List.append_assoc] at h
      have hitems := List.append_cancel_left (List.cons.inj h).2
      obtain ⟨rfl, htail⟩ := ha hb (hnext as hrest.1) (hnext bs hrest'.1) hitems
      obtain ⟨rfl, hrests⟩ := ih has hbs' htail
      exact ⟨rfl, hrests⟩

def inBrackets (left right : Char) (f : α → List Char) : List α → List Char
  | [] => [left, right]
  | a :: as => left :: (f a ++ (as.flatMap fun a => ',' :: ([' '] ++ f a)) ++ [right])

/-- A list in brackets is set apart by its items. -/
theorem SetsApart.inBrackets (hcomma : ∀ cs, E (',' :: cs)) (hright : ∀ cs, E (right :: cs))
    (hne : right ≠ ',') (hfront : ∀ a, P a → ∀ cs ds, f a ++ cs ≠ right :: ds)
    (has : ∀ a ∈ as, P a ∧ SetsApart f P E a) :
    SetsApart (inBrackets left right f) (fun bs => ∀ b ∈ bs, P b) (fun _ => True) as := by
  intro bs rest rest' (hbs : ∀ b ∈ bs, P b) _ _ h
  cases as with
  | nil =>
    cases bs with
    | nil => exact ⟨rfl, List.append_cancel_left h⟩
    | cons b bs =>
      simp only [Text.inBrackets, List.cons_append, List.append_assoc, List.cons.injEq] at h
      exact absurd h.2.symm (hfront b (hbs b List.mem_cons_self) _ _)
  | cons a as =>
    obtain ⟨⟨hPa, ha⟩, has⟩ := List.forall_mem_cons.mp has
    cases bs with
    | nil =>
      simp only [Text.inBrackets, List.cons_append, List.append_assoc, List.cons.injEq] at h
      exact absurd h.2 (hfront a hPa _ _)
    | cons b bs =>
      obtain ⟨hb, hbs'⟩ := List.forall_mem_cons.mp hbs
      simp only [Text.inBrackets, List.cons_append, List.append_assoc, List.cons.injEq,
        List.nil_append] at h
      have hnext (l : List α) (cs : List Char) :
          E ((l.flatMap fun a => ',' :: ' ' :: f a) ++ right :: cs) := by
        cases l with
        | nil => exact hright cs
        | cons a l => exact hcomma _
      obtain ⟨rfl, htail⟩ := ha hb (hnext as rest) (hnext bs rest') h.2
      have hmark (cs : List Char) : E (right :: cs) ∧ (right :: cs).head? ≠ some ',' :=
        ⟨hright cs, fun h => hne (Option.some.inj h)⟩
      obtain ⟨rfl, hrests⟩ := SetsApart.flatMap [' '] hcomma (fun a ha => (has a ha).2)
        hbs' (hmark rest) (hmark rest') htail
      exact ⟨rfl, (List.cons.inj hrests).2⟩

end Text

end VueWrap
