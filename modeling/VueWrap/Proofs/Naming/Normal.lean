import VueWrap.Proofs.Naming.Words

/-! # Names of files are in normal form

A small form has no separator that the text has not, so the words of a name stay words
in small letters. A file name is such words with single hyphens between them, and a
text of this form is its own file name.
-/

namespace VueWrap

namespace Text

variable {α : Type} {p : α → Bool} {a : α} {as bs w : List α} {c sep : Char}
  {ws : List (List Char)}

theorem splitWhere_append (ha : p a = true) (as bs : List α) :
    splitWhere p (as ++ a :: bs) = splitWhere p as ++ splitWhere p bs := by
  induction as with
  | nil => exact splitWhere_of_pos ha
  | cons b as ih =>
    cases hb : p b with
    | true =>
      rw [List.cons_append, splitWhere_of_pos hb, splitWhere_of_pos hb, ih, List.cons_append]
    | false =>
      obtain ⟨l, ls, hs⟩ := List.exists_cons_of_ne_nil (splitWhere_ne_nil p as)
      rw [hs, List.cons_append] at ih
      rw [List.cons_append, splitWhere_of_neg hb ih, splitWhere_of_neg hb hs, List.cons_append]

theorem splitWhere_of_forall (h : ∀ a ∈ w, p a = false) : splitWhere p w = [w] := by
  induction w with
  | nil => rfl
  | cons a w ih =>
    obtain ⟨ha, hw⟩ := List.forall_mem_cons.mp h
    exact splitWhere_of_neg ha (ih hw)

/-- A break at an end or next to another one has an empty piece beside it. -/
theorem nil_mem_splitWhere (ha : p a = true)
    (h : w = a :: bs ∨ w = as ++ [a] ∨ w = as ++ a :: a :: bs) : [] ∈ splitWhere p w := by
  rcases h with rfl | rfl | rfl
  · rw [splitWhere_of_pos ha]
    exact List.mem_cons_self
  · rw [splitWhere_append ha]
    exact List.mem_append_right _ List.mem_cons_self
  · rw [splitWhere_append ha, splitWhere_of_pos ha]
    exact List.mem_append_right _ List.mem_cons_self

theorem splitWhere_joinWith {p : Char → Bool} (hp : p sep = true) (hne : ws ≠ [])
    (h : ∀ w ∈ ws, ∀ c ∈ w, p c = false) : splitWhere p (joinWith sep ws) = ws := by
  induction ws with
  | nil => exact absurd rfl hne
  | cons w ws ih =>
    obtain ⟨hw, hrest⟩ := List.forall_mem_cons.mp h
    cases ws with
    | nil => exact splitWhere_of_forall hw
    | cons w' ws =>
      have hcons : joinWith sep (w :: w' :: ws) = w ++ sep :: joinWith sep (w' :: ws) := rfl
      rw [hcons, splitWhere_append hp, splitWhere_of_forall hw, ih (List.cons_ne_nil _ _) hrest,
        List.singleton_append]

theorem mem_joinWith (h : c ∈ joinWith sep ws) : c = sep ∨ ∃ w ∈ ws, c ∈ w := by
  cases ws with
  | nil => cases h
  | cons w ws =>
    rw [joinWith_cons, List.mem_append, List.mem_flatMap] at h
    rcases h with hc | ⟨w', hw', hc⟩
    · exact Or.inr ⟨w, List.mem_cons_self, hc⟩
    · rcases List.mem_cons.mp hc with rfl | hc
      · exact Or.inl rfl
      · exact Or.inr ⟨w', List.mem_cons_of_mem _ hw', hc⟩

end Text

namespace Naming

open Text (joinWith IsSmall StandsIn)

variable {c d : Char} {cs w : List Char} {ws : List (List Char)}

theorem within_imageless_of_isSeparator (h : isSeparator c = true) :
    Text.within Text.Case.imageless c = true := by
  simp only [isSeparator, isGap, Text.isBlank, Bool.or_eq_true, beq_iff_eq, Bool.and_eq_true,
    decide_eq_true_eq] at h
  simp only [Text.within, Text.Case.imageless, List.any_cons, List.any_nil, Bool.or_eq_true,
    Bool.and_eq_true, decide_eq_true_eq]
  rcases h with rfl | rfl | hblank
  · decide
  · decide
  · omega

/-- Only a separator has a separator in its small form. -/
theorem eq_of_standsIn (h : StandsIn d c) (hd : isSeparator d = true) : d = c := by
  rcases h with h | ⟨-, rfl⟩
  · rcases Text.mem_smallOf_cases h with ⟨hc, rfl⟩ | ⟨-, rfl⟩ | ⟨-, hout⟩
    · exact Text.of_lt_ascii (P := fun c => isSeparator c.toLower = true → c.toLower = c)
        (by decide) hc hd
    · rfl
    · rw [within_imageless_of_isSeparator hd] at hout
      cases hout
  · cases hd

theorem markBoundaries_of_isUpper (h : ∀ c ∈ cs, c.isUpper = false) : markBoundaries cs = cs := by
  induction cs with
  | nil => rfl
  | cons a cs ih =>
    cases cs with
    | nil => rfl
    | cons b cs =>
      obtain ⟨-, hcs⟩ := List.forall_mem_cons.mp h
      have hb : isBoundary a b = false := by
        rw [isBoundary, hcs b List.mem_cons_self, Bool.and_false]
      rw [markBoundaries, if_neg (by simp [hb]), ih hcs]

def IsSmallWord (w : List Char) : Prop := w ≠ [] ∧ ∀ c ∈ w, IsSmall c ∧ isSeparator c = false

/-- A file name: small words with single hyphens between them. -/
def IsKebab (cs : List Char) : Prop := ∃ ws, cs = joinWith '-' ws ∧ ∀ w ∈ ws, IsSmallWord w

theorem isSeparator_of_mem_words (hw : w ∈ words cs) (hc : c ∈ w) : isSeparator c = false := by
  have hmem : c ∈ (words cs).flatten := List.mem_flatten_of_mem hw hc
  rw [flatten_words] at hmem
  simpa using (List.mem_filter.mp hmem).2

theorem isSmallWord_small (h : w ∈ words cs) : IsSmallWord (Text.small w) := by
  have hne : w ≠ [] := by simpa using (List.mem_filter.mp h).2
  refine ⟨Text.small_ne_nil hne, fun d hd => ?_⟩
  obtain ⟨c, hc, hstands⟩ := Text.mem_small hd
  refine ⟨hstands.isSmall, Bool.eq_false_iff.mpr fun hsep => ?_⟩
  rw [eq_of_standsIn hstands hsep, isSeparator_of_mem_words h hc] at hsep
  cases hsep

theorem isKebab_kebab (cs : List Char) : IsKebab (kebab cs) := by
  refine ⟨(words cs).map Text.small, ?_, ?_⟩
  · rw [kebab_eq, Text.small_joinWith Text.isBreak_hyphen Text.isSmall_hyphen]
  · intro w' hw'
    obtain ⟨w, hw, rfl⟩ := List.mem_map.mp hw'
    exact isSmallWord_small hw

namespace IsKebab

theorem isSmall (h : IsKebab cs) : ∀ c ∈ cs, IsSmall c := by
  obtain ⟨ws, rfl, hws⟩ := h
  intro c hc
  rcases Text.mem_joinWith hc with rfl | ⟨w, hw, hc⟩
  · exact Text.isSmall_hyphen
  · exact ((hws w hw).2 c hc).1

theorem isGap_eq_false (h : IsKebab cs) : ∀ c ∈ cs, isGap c = false := by
  obtain ⟨ws, rfl, hws⟩ := h
  intro c hc
  rcases Text.mem_joinWith hc with rfl | ⟨w, hw, hc⟩
  · rfl
  · exact (Bool.or_eq_false_iff.mp ((hws w hw).2 c hc).2).2

/-- There is a word on both sides of each hyphen. -/
theorem nil_not_mem_splitWhere (h : IsKebab cs) (hne : cs ≠ []) :
    [] ∉ Text.splitWhere (· == '-') cs := by
  obtain ⟨ws, rfl, hws⟩ := h
  have hws_ne : ws ≠ [] := by
    rintro rfl
    exact hne rfl
  rw [Text.splitWhere_joinWith rfl hws_ne
    fun w hw c hc => (Bool.or_eq_false_iff.mp ((hws w hw).2 c hc).2).1]
  exact fun hnil => (hws [] hnil).1 rfl

theorem ne_of_hyphens (h : IsKebab cs) (as bs : List Char) :
    cs ≠ '-' :: bs ∧ cs ≠ as ++ ['-'] ∧ cs ≠ as ++ '-' :: '-' :: bs := by
  have hsingle (hcs : cs = '-' :: bs ∨ cs = as ++ ['-'] ∨ cs = as ++ '-' :: '-' :: bs) : False := by
    have hne : cs ≠ [] := by rcases hcs with rfl | rfl | rfl <;> simp
    exact h.nil_not_mem_splitWhere hne (Text.nil_mem_splitWhere rfl hcs)
  exact ⟨fun hcs => hsingle (Or.inl hcs), fun hcs => hsingle (Or.inr (Or.inl hcs)),
    fun hcs => hsingle (Or.inr (Or.inr hcs))⟩

end IsKebab

/-- The words of a file name are those it is put together from. -/
theorem words_joinWith (h : ∀ w ∈ ws, IsSmallWord w) : words (joinWith '-' ws) = ws := by
  have hkebab : IsKebab (joinWith '-' ws) := ⟨ws, rfl, h⟩
  have hupper : ∀ c ∈ joinWith '-' ws, c.isUpper = false :=
    fun c hc => (hkebab.isSmall c hc).isUpper_eq_false
  rw [words_eq, markBoundaries_of_isUpper hupper]
  cases ws with
  | nil => rfl
  | cons w ws =>
    have hsplit := @Text.splitWhere_joinWith '-' (w :: ws) isSeparator rfl
      (List.cons_ne_nil w ws) fun w hw c hc => ((h w hw).2 c hc).2
    rw [fields, hsplit]
    exact List.filter_eq_self.mpr fun w hw => by simpa using (h w hw).1

/-- What has the form of a file name is its own file name. -/
theorem kebab_of_isKebab (h : IsKebab cs) : kebab cs = cs := by
  have hsmall := Text.small_of_isSmall h.isSmall
  obtain ⟨ws, rfl, hws⟩ := h
  rw [kebab_eq, words_joinWith hws, hsmall]

/-- A file name has no capitals, underscores or blanks, its hyphens are single and not at its ends,
and it is its own file name. -/
theorem kebab_normal (cs : List Char) :
    (∀ c ∈ kebab cs, c.isUpper = false ∧ c ≠ '_' ∧ Text.isBlank c = false) ∧
      ¬ ['-', '-'] <:+: kebab cs ∧ (kebab cs).head? ≠ some '-' ∧
      (kebab cs).getLast? ≠ some '-' ∧ kebab (kebab cs) = kebab cs := by
  have hkebab := isKebab_kebab cs
  refine ⟨fun c hc => ?_, ?_, ?_, ?_, kebab_of_isKebab hkebab⟩
  · obtain ⟨hunderscore, hblank⟩ := Bool.or_eq_false_iff.mp (hkebab.isGap_eq_false c hc)
    exact ⟨(hkebab.isSmall c hc).isUpper_eq_false, by simpa using hunderscore, hblank⟩
  · rintro ⟨as, bs, hdouble⟩
    refine (hkebab.ne_of_hyphens as bs).2.2 ?_
    rw [← hdouble, List.append_assoc, List.cons_append, List.singleton_append]
  · intro hhead
    obtain ⟨bs, hbs⟩ := List.head?_eq_some_iff.mp hhead
    exact (hkebab.ne_of_hyphens [] bs).1 hbs
  · intro hlast
    obtain ⟨as, has⟩ := List.getLast?_eq_some_iff.mp hlast
    exact (hkebab.ne_of_hyphens as []).2.1 has

end Naming

end VueWrap
