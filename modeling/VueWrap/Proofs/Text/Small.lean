import VueWrap.Text.Case
import VueWrap.Text.Lines

/-! # Small letters stay small

The small form of a character is made of characters that are their own small form, and
a text of such characters is its own small form. For the characters beyond ASCII this
is read off the runs of the table: where the images of a run lie, no run moves anything.
The small form of a text goes in parts where no letter is looked for across the gaps.
-/

namespace VueWrap

namespace Text

variable {c d : Char} {cs ds rest before : List Char} {lo hi m n : Nat}

/-- What is true of the first characters is true of any one among them. -/
theorem of_lt_ascii {P : Char → Prop} (h : ∀ n < 0x80, P (Char.ofNat n)) (hc : c.toNat < 0x80) :
    P c := by
  have hP := h _ hc
  rwa [Char.ofNat_toNat] at hP

theorem isAlphanum_eq (c : Char) : c.isAlphanum = (c.isUpper || c.isLower || c.isDigit) := rfl

theorem toNat_lt_of_isAlphanum (h : c.isAlphanum = true) : c.toNat < 0x80 := by
  have hlt {d : Char} (hle : c.val ≤ d.val) (hd : d.toNat < 0x80) : c.toNat < 0x80 :=
    Nat.lt_of_le_of_lt (UInt32.le_iff_toNat_le.mp hle) hd
  rw [isAlphanum_eq, Bool.or_eq_true, Bool.or_eq_true] at h
  rcases h with (hupper | hlower) | hdigit
  · have hZ : c.val ≤ 'Z'.val := (of_decide_eq_true hupper).2
    exact hlt hZ (by decide)
  · have hz : c.val ≤ 'z'.val := of_decide_eq_true (Bool.and_eq_true_iff.mp hlower).2
    exact hlt hz (by decide)
  · have hnine : c.val ≤ '9'.val := of_decide_eq_true (Bool.and_eq_true_iff.mp hdigit).2
    exact hlt hnine (by decide)

namespace Case

variable {r s : Run}

/-- The images of the run may lie between `lo` and `hi`. -/
def Run.meets (r : Run) (lo hi : Nat) : Bool :=
  Nat.ble lo (r.image + (r.last - r.first)) && Nat.ble r.image hi

/-- The images of `r` lie between the places that `s` moves. -/
def Run.interleaves (r s : Run) : Bool :=
  (r.step == 2 || r.first == r.last) && s.step == 2 && (r.image + s.first) % 2 == 1

/-- Intervals in which there is no image: separators of words, capitals, and code points that are no
characters are in them. -/
def imageless : List (Nat × Nat) :=
  [(0, 0x60), (0x7b, 0xa0), (0x130, 0x130), (0x1680, 0x1680), (0x2000, 0x205f), (0x3000, 0x3000),
    (0xd800, 0xdfff)]

theorem all_interleaves :
    (toSmall.all fun r => toSmall.all fun s => !r.meets s.first s.last || r.interleaves s) =
      true := by
  decide +kernel

theorem all_imageless :
    (toSmall.all fun r => imageless.all fun i => !r.meets i.1 i.2) = true := by
  decide +kernel

theorem all_lt : (toSmall.all fun r => Nat.blt (r.image + (r.last - r.first)) 0x110000) = true := by
  decide +kernel

theorem Run.exists_of_image? (h : r.image? n = some m) :
    ∃ k ≤ r.last - r.first, k % r.step = 0 ∧ m = r.image + k := by
  unfold Run.image? at h
  split at h
  · rename_i hr
    exact ⟨n - r.first, by omega, hr.2.2, (Option.some.inj h).symm⟩
  · cases h

theorem Run.meets_of_image? (h : r.image? n = some m) (hlo : lo ≤ m) (hhi : m ≤ hi) :
    r.meets lo hi = true := by
  obtain ⟨k, hk, -, rfl⟩ := Run.exists_of_image? h
  rw [Run.meets, Bool.and_eq_true, Nat.ble_eq, Nat.ble_eq]
  omega

theorem Run.image?_of_interleaves (hrs : r.interleaves s = true) (h : r.image? n = some m) :
    s.image? m = none := by
  obtain ⟨k, hk, hkstep, rfl⟩ := Run.exists_of_image? h
  simp only [Run.interleaves, Bool.and_eq_true, Bool.or_eq_true, beq_iff_eq] at hrs
  obtain ⟨⟨hr, hs⟩, hodd⟩ := hrs
  rw [Run.image?, if_neg]
  rintro ⟨hfirst, -, hstep⟩
  rw [hs] at hstep
  rcases hr with hr | hr
  · rw [hr] at hkstep
    omega
  · omega

/-- An image is not moved any more. -/
theorem look_of_look (h : look toSmall n = some m) : look toSmall m = none := by
  obtain ⟨r, hr, hrm⟩ := List.exists_of_findSome?_eq_some h
  refine List.findSome?_eq_none_iff.mpr fun s hs => ?_
  have hall := List.all_eq_true.mp (List.all_eq_true.mp all_interleaves r hr) s hs
  rw [Bool.or_eq_true, Bool.not_eq_true'] at hall
  rcases hall with hapart | hbetween
  · rw [Run.image?, if_neg]
    rintro ⟨hfirst, hlast, -⟩
    rw [Run.meets_of_image? hrm hfirst hlast] at hapart
    cases hapart
  · exact Run.image?_of_interleaves hbetween hrm

theorem not_imageless_of_look (h : look toSmall n = some m) :
    ∀ i ∈ imageless, ¬ (i.1 ≤ m ∧ m ≤ i.2) := by
  rintro i hi ⟨hlo, hhi⟩
  obtain ⟨r, hr, hrm⟩ := List.exists_of_findSome?_eq_some h
  have hall := List.all_eq_true.mp (List.all_eq_true.mp all_imageless r hr) i hi
  rw [Run.meets_of_image? hrm hlo hhi] at hall
  cases hall

theorem isValidChar_of_look (h : look toSmall n = some m) : m.isValidChar := by
  have hgap := not_imageless_of_look h (0xd800, 0xdfff) (by decide)
  obtain ⟨r, hr, hrm⟩ := List.exists_of_findSome?_eq_some h
  obtain ⟨k, hk, -, rfl⟩ := Run.exists_of_image? hrm
  have hend := List.all_eq_true.mp all_lt r hr
  rw [Nat.blt_eq] at hend
  unfold Nat.isValidChar
  omega

theorem toNat_ofNat_of_look (h : look toSmall n = some m) : (Char.ofNat m).toNat = m := by
  rw [Char.ofNat, dif_pos (isValidChar_of_look h)]
  rfl

end Case

/-- The character is its own small form. -/
def IsSmall (c : Char) : Prop := smallOf c = [c]

instance (c : Char) : Decidable (IsSmall c) := inferInstanceAs (Decidable (_ = _))

/-- A character of a small form: that of an ASCII character, a character that is not moved, or one
that lies where images do. -/
theorem mem_smallOf_cases (h : d ∈ smallOf c) :
    c.toNat < 0x80 ∧ d = c.toLower ∨ IsSmall c ∧ d = c ∨
      IsSmall d ∧ within Case.imageless d = false := by
  unfold smallOf at h
  split at h
  · rename_i hc
    exact Or.inl ⟨hc, List.mem_singleton.mp h⟩
  · rename_i hc
    split at h
    · have hletter : IsSmall 'i' ∧ within Case.imageless 'i' = false := by decide +kernel
      have hpoint : IsSmall (Char.ofNat 0x307) ∧
          within Case.imageless (Char.ofNat 0x307) = false := by decide +kernel
      rcases List.mem_cons.mp h with rfl | h
      · exact Or.inr (Or.inr hletter)
      · obtain rfl := List.mem_singleton.mp h
        exact Or.inr (Or.inr hpoint)
    · rename_i hdotted
      split at h
      · rename_i m hm
        obtain rfl := List.mem_singleton.mp h
        have htoNat := Case.toNat_ofNat_of_look hm
        have himageless := Case.not_imageless_of_look hm
        refine Or.inr (Or.inr ⟨?_, ?_⟩)
        · have hdotted' : m ≠ 0x130 := fun h => himageless (0x130, 0x130) (by decide) (by omega)
          by_cases hm' : m < 0x80
          · have hletter : ∀ n < 0x80, 0x60 < n → n < 0x7b → IsSmall (Char.ofNat n) := by decide
            have hlow := himageless (0, 0x60) (by decide)
            have hhigh := himageless (0x7b, 0xa0) (by decide)
            exact hletter m hm' (by omega) (by omega)
          · rw [IsSmall, smallOf, htoNat, if_neg hm', if_neg hdotted', Case.look_of_look hm]
        · refine Bool.eq_false_iff.mpr fun hwithin => ?_
          obtain ⟨i, hi, hmi⟩ := within_iff.mp hwithin
          rw [htoNat] at hmi
          exact himageless i hi hmi
      · rename_i hnone
        obtain rfl := List.mem_singleton.mp h
        refine Or.inr (Or.inl ⟨?_, rfl⟩)
        rw [IsSmall, smallOf, if_neg hc, if_neg hdotted, hnone]

theorem isSmall_of_mem_smallOf (h : d ∈ smallOf c) : IsSmall d := by
  rcases mem_smallOf_cases h with ⟨hc, rfl⟩ | ⟨hc, rfl⟩ | ⟨hd, -⟩
  · refine of_lt_ascii (P := fun c => IsSmall c.toLower) (by decide) hc
  · exact hc
  · exact hd

theorem IsSmall.isUpper_eq_false (h : IsSmall c) : c.isUpper = false := by
  cases hc : c.isUpper with
  | false => rfl
  | true =>
    have hlt : c.toNat < 0x80 := toNat_lt_of_isAlphanum (by simp [isAlphanum_eq, hc])
    have hnot : c.isUpper = true → ¬ IsSmall c :=
      of_lt_ascii (P := fun c => c.isUpper = true → ¬ IsSmall c) (by decide) hlt
    exact absurd h (hnot hc)

/-- The character stands in a small form of the other one, be it that at the end of a word. -/
def StandsIn (d c : Char) : Prop := d ∈ smallOf c ∨ c = 'Σ' ∧ d = 'ς'

theorem StandsIn.isSmall (h : StandsIn d c) : IsSmall d := by
  rcases h with h | ⟨-, rfl⟩
  · exact isSmall_of_mem_smallOf h
  · decide +kernel

theorem not_isSmall_sigma : ¬ IsSmall 'Σ' := by decide +kernel

theorem smallOf_ne_nil (c : Char) : smallOf c ≠ [] := by
  unfold smallOf
  split
  · exact List.cons_ne_nil _ _
  · split
    · exact List.cons_ne_nil _ _
    · split <;> exact List.cons_ne_nil _ _

theorem mem_smallAfter (h : d ∈ smallAfter before cs) : ∃ c ∈ cs, StandsIn d c := by
  induction cs generalizing before with
  | nil => cases h
  | cons c cs ih =>
    rcases List.mem_append.mp h with hd | hd
    · refine ⟨c, List.mem_cons_self, ?_⟩
      split at hd
      · rename_i hc
        have hsigma : 'σ' ∈ smallOf 'Σ' := by decide +kernel
        split at hd
        · exact Or.inr ⟨hc, List.mem_singleton.mp hd⟩
        · obtain rfl := List.mem_singleton.mp hd
          exact Or.inl (hc ▸ hsigma)
      · exact Or.inl hd
    · obtain ⟨c', hc', hstands⟩ := ih hd
      exact ⟨c', List.mem_cons_of_mem _ hc', hstands⟩

/-- Each character of a small form stands in for one of the text. -/
theorem mem_small (h : d ∈ small cs) : ∃ c ∈ cs, StandsIn d c := mem_smallAfter h

theorem small_ne_nil (h : cs ≠ []) : small cs ≠ [] := by
  obtain ⟨c, cs, rfl⟩ := List.exists_cons_of_ne_nil h
  rw [small, smallAfter]
  refine fun hnil => ?_
  have hfirst := (List.append_eq_nil_iff.mp hnil).1
  split at hfirst
  · split at hfirst <;> cases hfirst
  · exact smallOf_ne_nil c hfirst

theorem smallAfter_of_isSmall (h : ∀ c ∈ cs, IsSmall c) (before : List Char) :
    smallAfter before cs = cs := by
  induction cs generalizing before with
  | nil => rfl
  | cons c cs ih =>
    obtain ⟨hc, hcs⟩ := List.forall_mem_cons.mp h
    have hne : c ≠ 'Σ' := by
      rintro rfl
      exact not_isSmall_sigma hc
    rw [smallAfter, if_neg hne, hc, ih hcs]
    rfl

/-- A text of small characters is its own small form. -/
theorem small_of_isSmall (h : ∀ c ∈ cs, IsSmall c) : small cs = cs := smallAfter_of_isSmall h []

/-- The character ends every look around a sigma, and what it ends on is no letter. -/
def IsBreak (c : Char) : Prop := within Case.ignorable c = false ∧ within Case.cased c = false

instance (c : Char) : Decidable (IsBreak c) := inferInstanceAs (Decidable (_ ∧ _))

theorem isBreak_hyphen : IsBreak '-' := by decide +kernel

theorem isSmall_hyphen : IsSmall '-' := by decide

theorem IsBreak.ne_sigma (h : IsBreak c) : c ≠ 'Σ' := by
  have hsigma : ¬ IsBreak 'Σ' := by decide +kernel
  rintro rfl
  exact hsigma h

theorem nextCased_append_break (hc : IsBreak c) (cs rest : List Char) :
    nextCased (cs ++ c :: rest) = nextCased cs := by
  obtain ⟨hignorable, hcased⟩ := hc
  unfold nextCased
  rw [List.dropWhile_append]
  cases hd : cs.dropWhile (within Case.ignorable) with
  | nil =>
    rw [List.isEmpty_nil, if_pos rfl, List.dropWhile_cons_of_neg (by simp [hignorable])]
    exact hcased
  | cons d ds => rfl

/-- Nothing before a break matters. -/
theorem smallAfter_append_break (hc : IsBreak c) (before front cs : List Char) :
    smallAfter (before ++ c :: front) cs = smallAfter before cs := by
  induction cs generalizing before with
  | nil => rfl
  | cons d cs ih =>
    have hrest : smallAfter (d :: before ++ c :: front) cs = smallAfter (d :: before) cs :=
      ih (d :: before)
    rw [smallAfter, smallAfter, endsWord, endsWord, nextCased_append_break hc, ← List.cons_append,
      hrest]

/-- Nothing behind a break matters. -/
theorem smallAfter_break_append (hc : IsBreak c) (before cs rest : List Char) :
    smallAfter before (cs ++ c :: rest) =
      smallAfter before cs ++ smallAfter (cs.reverse ++ before) (c :: rest) := by
  induction cs generalizing before with
  | nil => rfl
  | cons d cs ih =>
    rw [List.cons_append, smallAfter, smallAfter, endsWord, endsWord, nextCased_append_break hc, ih,
      List.append_assoc, List.reverse_cons, List.append_assoc, List.singleton_append]

theorem small_append_break (hc : IsBreak c) (hsmall : IsSmall c) (cs rest : List Char) :
    small (cs ++ c :: rest) = small cs ++ c :: small rest := by
  have hbreak : smallAfter (c :: cs.reverse) rest = small rest :=
    smallAfter_append_break hc [] cs.reverse rest
  rw [small, smallAfter_break_append hc, smallAfter, if_neg hc.ne_sigma, hsmall, List.append_nil,
    hbreak]
  rfl

/-- What is between breaks has a small form of its own. -/
theorem small_joinWith (hc : IsBreak c) (hsmall : IsSmall c) (ws : List (List Char)) :
    small (joinWith c ws) = joinWith c (ws.map small) := by
  induction ws with
  | nil => rfl
  | cons w ws ih =>
    cases ws with
    | nil => rfl
    | cons w' ws =>
      have hcons : joinWith c (w :: w' :: ws) = w ++ c :: joinWith c (w' :: ws) := rfl
      rw [hcons, small_append_break hc hsmall, ih]
      rfl

end Text

end VueWrap
