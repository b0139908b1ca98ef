import Mathlib.Data.List.DropRight
import VueWrap.Naming
import VueWrap.Proofs.Text.Small

/-! # Words of a file name

A file is named by the words of a name. Behind marked boundaries the words are the
fields between separators, the empty ones left out. Squeezing the gaps and then the
hyphens squeezes all separators at once, and what is left after trimming are the
fields with single hyphens between them.
-/

namespace VueWrap

namespace Text

variable {α : Type} {p : α → Bool} {a : α} {as l : List α} {ls : List (List α)}

theorem splitWhere_of_pos (h : p a = true) : splitWhere p (a :: as) = [] :: splitWhere p as :=
  if_pos h

theorem splitWhere_of_neg (h : p a = false) (hs : splitWhere p as = l :: ls) :
    splitWhere p (a :: as) = (a :: l) :: ls := by
  simp [splitWhere, h, hs]

theorem splitWhere_ne_nil (p : α → Bool) (as : List α) : splitWhere p as ≠ [] := by
  cases as with
  | nil => exact List.cons_ne_nil _ _
  | cons a as =>
    unfold splitWhere
    split
    · exact List.cons_ne_nil _ _
    · split <;> exact List.cons_ne_nil _ _

theorem joinWith_cons (sep : Char) (w : List Char) (ws : List (List Char)) :
    joinWith sep (w :: ws) = w ++ ws.flatMap (sep :: ·) := by
  induction ws generalizing w with
  | nil => exact (List.append_nil w).symm
  | cons w' ws ih =>
    have hcons : joinWith sep (w :: w' :: ws) = w ++ sep :: joinWith sep (w' :: ws) := rfl
    rw [hcons, ih, List.flatMap_cons, List.cons_append]

theorem rdropWhile_cons (p : α → Bool) (a : α) (as : List α) :
    (a :: as).rdropWhile p =
      if p a = true ∧ as.rdropWhile p = [] then [] else a :: as.rdropWhile p := by
  rw [List.rdropWhile, List.reverse_cons, List.dropWhile_append]
  cases h : as.reverse.dropWhile p with
  | nil =>
    have hnil : as.rdropWhile p = [] := by rw [List.rdropWhile, h, List.reverse_nil]
    cases ha : p a <;> simp [ha, hnil]
  | cons b bs =>
    have hne : as.rdropWhile p ≠ [] := by simp [List.rdropWhile, h]
    rw [List.isEmpty_cons, if_neg Bool.false_ne_true, if_neg (fun hand => hne hand.2),
      List.rdropWhile, h, List.reverse_append]
    rfl

end Text

namespace Naming

open Text (splitWhere joinWith)

variable {p : Char → Bool} {a b : Char} {cs : List Char}

/-- The pieces between the characters that satisfy `p`, without the empty ones. -/
def fields (p : Char → Bool) (cs : List Char) : List (List Char) :=
  (splitWhere p cs).filter (!·.isEmpty)

/-- The text begins with a character that satisfies `p`. -/
def begins (p : Char → Bool) (cs : List Char) : Bool := cs.head?.any p

theorem exists_of_begins (h : begins p cs = true) : ∃ b bs, cs = b :: bs ∧ p b = true := by
  cases cs with
  | nil => cases h
  | cons b bs => exact ⟨b, bs, rfl, h⟩

theorem ne_nil_of_mem_fields {w : List Char} (h : w ∈ fields p cs) : w ≠ [] := by
  simpa using (List.mem_filter.mp h).2

theorem fields_of_pos (h : p a = true) : fields p (a :: cs) = fields p cs := by
  rw [fields, Text.splitWhere_of_pos h]
  rfl

/-- A character in front of a separator is a field of its own. -/
theorem fields_of_begins (h : p a = false) (hcs : begins p cs = true) :
    fields p (a :: cs) = [a] :: fields p cs := by
  obtain ⟨b, bs, rfl, hb⟩ := exists_of_begins hcs
  rw [fields_of_pos hb, fields, Text.splitWhere_of_neg h (Text.splitWhere_of_pos hb)]
  rfl

/-- A character in front of a field goes on with it. -/
theorem exists_fields_of_neg (h : p a = false) (hb : p b = false) (cs : List Char) :
    ∃ w ws, fields p (b :: cs) = w :: ws ∧ fields p (a :: b :: cs) = (a :: w) :: ws := by
  obtain ⟨l, ls, hs⟩ := List.exists_cons_of_ne_nil (Text.splitWhere_ne_nil p cs)
  have hbcs := Text.splitWhere_of_neg hb hs
  refine ⟨b :: l, ls.filter (!·.isEmpty), ?_, ?_⟩
  · rw [fields, hbcs]
    rfl
  · rw [fields, Text.splitWhere_of_neg h hbcs]
    rfl

theorem fields_dropWhile (p : Char → Bool) (cs : List Char) :
    fields p (cs.dropWhile p) = fields p cs := by
  induction cs with
  | nil => rfl
  | cons a cs ih =>
    cases h : p a with
    | true => rw [List.dropWhile_cons_of_pos h, ih, fields_of_pos h]
    | false => rw [List.dropWhile_cons_of_neg (by simp [h])]

theorem begins_dropWhile (p : Char → Bool) (cs : List Char) :
    begins p (cs.dropWhile p) = false := by
  induction cs with
  | nil => rfl
  | cons a cs ih =>
    cases h : p a with
    | true => rw [List.dropWhile_cons_of_pos h, ih]
    | false =>
      rw [List.dropWhile_cons_of_neg (by simp [h])]
      exact h

theorem not_isSeparator_of_isBoundary (h : isBoundary a b = true) : isSeparator a = false := by
  have hsmall : isSmallOrDigit a = true := (Bool.and_eq_true_iff.mp h).1
  have halphanum : a.isAlphanum = true := by
    rw [Text.isAlphanum_eq, Bool.or_assoc]
    exact Bool.or_eq_true_iff.mpr (Or.inr hsmall)
  have hlt := Text.toNat_lt_of_isAlphanum halphanum
  exact Text.of_lt_ascii (P := fun a => isSmallOrDigit a = true → isSeparator a = false)
    (by decide) hlt hsmall

/-- The pieces of a name are what stands between the separators once the boundaries are marked. -/
theorem splitWhere_markBoundaries (cs : List Char) :
    splitWhere isSeparator (markBoundaries cs) = pieces cs := by
  induction cs with
  | nil => rfl
  | cons a cs ih =>
    cases cs with
    | nil => rfl
    | cons b cs =>
      cases hboundary : isBoundary a b with
      | true =>
        have ha := not_isSeparator_of_isBoundary hboundary
        have hmark : markBoundaries (a :: b :: cs) = a :: '-' :: markBoundaries (b :: cs) :=
          if_pos hboundary
        rw [hmark, Text.splitWhere_of_neg ha (Text.splitWhere_of_pos rfl), ih, pieces]
        simp [ha, hboundary]
      | false =>
        have hmark : markBoundaries (a :: b :: cs) = a :: markBoundaries (b :: cs) :=
          if_neg (by simp [hboundary])
        rw [hmark, splitWhere, ih, pieces, hboundary, if_neg Bool.false_ne_true]
        cases pieces (b :: cs) <;> rfl

theorem words_eq (cs : List Char) : words cs = fields isSeparator (markBoundaries cs) := by
  rw [words, fields, splitWhere_markBoundaries]

/-- Nothing but the separators is left out of the pieces. -/
theorem flatten_pieces (cs : List Char) : (pieces cs).flatten = cs.filter (!isSeparator ·) := by
  induction cs with
  | nil => rfl
  | cons a cs ih =>
    cases ha : isSeparator a with
    | true =>
      have hpieces : pieces (a :: cs) = [] :: pieces cs := if_pos ha
      rw [hpieces, List.flatten_cons, ih, List.filter_cons_of_neg (by simp [ha])]
      rfl
    | false =>
      rw [List.filter_cons_of_pos (by simp [ha]), ← ih]
      cases cs with
      | nil => simp [pieces, ha]
      | cons b bs =>
        rw [pieces, if_neg (by simp [ha])]
        split
        · rfl
        · cases pieces (b :: bs) <;> rfl

theorem flatten_words (cs : List Char) : (words cs).flatten = cs.filter (!isSeparator ·) := by
  rw [words, List.flatten_filter_not_isEmpty, flatten_pieces]

theorem squeeze_cons (p : Char → Bool) (a : Char) (cs : List Char) :
    squeeze p (a :: cs) =
      if p a then (if begins p cs then squeeze p cs else '-' :: squeeze p cs)
      else a :: squeeze p cs := by
  cases cs with
  | nil => cases h : p a <;> simp [squeeze, begins, h]
  | cons b cs => rfl

theorem begins_squeeze (p : Char → Bool) (cs : List Char) :
    begins (· == '-') (squeeze p cs) = begins (fun c => c == '-' || p c) cs := by
  induction cs with
  | nil => rfl
  | cons a cs ih =>
    rw [squeeze_cons]
    cases ha : p a with
    | false => simp [begins, ha]
    | true =>
      cases hcs : begins p cs with
      | false => simp [begins, ha]
      | true =>
        obtain ⟨b, bs, rfl, hb⟩ := exists_of_begins hcs
        rw [if_pos rfl, if_pos rfl, ih]
        simp [begins, ha, hb]

/-- Squeezing the gaps and then the hyphens squeezes all separators at once. -/
theorem squeeze_squeeze (cs : List Char) :
    squeeze (· == '-') (squeeze isGap cs) = squeeze isSeparator cs := by
  induction cs with
  | nil => rfl
  | cons a cs ih =>
    have hhead : begins (· == '-') (squeeze isGap cs) = begins isSeparator cs :=
      begins_squeeze isGap cs
    rw [squeeze_cons isGap, squeeze_cons isSeparator]
    cases ha : isGap a with
    | false =>
      have hsep : isSeparator a = (a == '-') := by rw [isSeparator, ha, Bool.or_false]
      rw [if_neg Bool.false_ne_true, squeeze_cons, hhead, ih, hsep]
    | true =>
      have hsep : isSeparator a = true := by rw [isSeparator, ha, Bool.or_true]
      rw [if_pos rfl, if_pos hsep]
      cases hcs : begins isGap cs with
      | false =>
        rw [if_neg Bool.false_ne_true, squeeze_cons, if_pos (beq_self_eq_true '-'), hhead, ih]
      | true =>
        obtain ⟨b, bs, rfl, hb⟩ := exists_of_begins hcs
        have hbegins : begins isSeparator (b :: bs) = true := by simp [begins, isSeparator, hb]
        rw [if_pos rfl, ih, if_pos hbegins]

theorem dropWhile_squeeze (hp : p '-' = true) (cs : List Char) :
    (squeeze p cs).dropWhile (· == '-') = squeeze p (cs.dropWhile p) := by
  induction cs with
  | nil => rfl
  | cons a cs ih =>
    rw [squeeze_cons]
    cases ha : p a with
    | true =>
      rw [if_pos rfl, List.dropWhile_cons_of_pos ha, ← ih]
      split
      · rfl
      · exact List.dropWhile_cons_of_pos rfl
    | false =>
      have hne : a ≠ '-' := by
        rintro rfl
        rw [hp] at ha
        cases ha
      rw [if_neg Bool.false_ne_true, List.dropWhile_cons_of_neg (by simp [hne]),
        List.dropWhile_cons_of_neg (by simp [ha]), squeeze_cons, ha, if_neg Bool.false_ne_true]

/-- Without the hyphens at its end, a squeezed text is its fields with a hyphen before each of them,
except the first one where the text begins with a field. -/
theorem rdropWhile_squeeze (hp : p '-' = true) (cs : List Char) :
    (squeeze p cs).rdropWhile (· == '-') =
      if begins p cs then (fields p cs).flatMap ('-' :: ·) else joinWith '-' (fields p cs) := by
  induction cs with
  | nil => rfl
  | cons a cs ih =>
    rw [squeeze_cons]
    cases ha : p a with
    | true =>
      have hbegins : begins p (a :: cs) = true := ha
      rw [if_pos rfl, if_pos hbegins, fields_of_pos ha]
      cases hcs : begins p cs with
      | true => rw [if_pos rfl, ih, if_pos hcs]
      | false =>
        -- The hyphen in front of the first field stays if there is one.
        rw [hcs, if_neg Bool.false_ne_true] at ih
        rw [if_neg Bool.false_ne_true, Text.rdropWhile_cons, ih]
        cases hfields : fields p cs with
        | nil => rfl
        | cons w ws =>
          have hw : w ≠ [] := ne_nil_of_mem_fields (hfields ▸ List.mem_cons_self)
          rw [Text.joinWith_cons, if_neg (fun h => hw (List.append_eq_nil_iff.mp h.2).1)]
          rfl
    | false =>
      have hne : ¬ (a == '-') = true := by
        rw [beq_iff_eq]
        rintro rfl
        rw [hp] at ha
        cases ha
      have hbegins : ¬ begins p (a :: cs) = true := by simp [begins, ha]
      rw [if_neg Bool.false_ne_true, Text.rdropWhile_cons, if_neg (fun h => hne h.1),
        if_neg hbegins, ih]
      cases hcs : begins p cs with
      | true => rw [if_pos rfl, fields_of_begins ha hcs, Text.joinWith_cons, List.singleton_append]
      | false =>
        rw [if_neg Bool.false_ne_true]
        cases cs with
        | nil =>
          have hsplit : splitWhere p [a] = [[a]] := Text.splitWhere_of_neg ha rfl
          rw [fields, fields, hsplit]
          rfl
        | cons b bs =>
          obtain ⟨w, ws, hb, hab⟩ := exists_fields_of_neg ha hcs bs
          rw [hb, hab, Text.joinWith_cons, Text.joinWith_cons, List.cons_append]

/-- What is left of a squeezed text after trimming are its fields with single hyphens between. -/
theorem trimHyphens_squeeze (hp : p '-' = true) (cs : List Char) :
    trimHyphens (squeeze p cs) = joinWith '-' (fields p cs) := by
  have htrim : trimHyphens (squeeze p cs) =
      ((squeeze p cs).dropWhile (· == '-')).rdropWhile (· == '-') := rfl
  have hbegins : ¬ begins p (cs.dropWhile p) = true := by simp [begins_dropWhile]
  rw [htrim, dropWhile_squeeze hp, rdropWhile_squeeze hp, if_neg hbegins, fields_dropWhile]

/-- The marks, the gaps and the hyphens of a name are the breaks between its words. -/
theorem kebab_eq (cs : List Char) : kebab cs = Text.small (joinWith '-' (words cs)) := by
  rw [kebab, squeeze_squeeze, trimHyphens_squeeze rfl, words_eq]

/-- The file is named by the words in small letters with single hyphens between them, and the words
have all characters of the name, in order, but the separators. -/
theorem kebab_joins_words (cs : List Char) :
    kebab cs = joinWith '-' ((words cs).map Text.small) ∧
      kebab cs = Text.small (joinWith '-' (words cs)) ∧
      (words cs).flatten = cs.filter (!isSeparator ·) := by
  refine ⟨?_, kebab_eq cs, flatten_words cs⟩
  rw [kebab_eq, Text.small_joinWith Text.isBreak_hyphen Text.isSmall_hyphen]

example : words "HTML5Editor _v2-".toList = ["HTML5".toList, "Editor".toList, "v2".toList] := by
  decide

end Naming

end VueWrap
