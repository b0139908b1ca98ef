import VueWrap.Json.Print
import VueWrap.Json.Read

/-! # Strings, integers and words are read back

What is written for a string, an integer or a word is read from the front of a
text, and the rest of the text is left as it is. Behind an integer nothing may
stand that would go on with it.
-/

namespace VueWrap.Json

variable {c d l : Char} {cs ds rest opened : List Char} {fuel n : Nat} {s : String} {v : Value}

theorem stringBody_end (rest : List Char) :
    stringBody opened (fuel + 1) ('"' :: rest) = .ok ([], rest) := by
  cases rest <;> simp [stringBody]

theorem stringBody_plain (hquote : c ≠ '"') (hback : c ≠ '\\') (hc : ¬ c.toNat < 32) :
    stringBody opened (fuel + 1) (c :: cs) =
      (stringBody opened fuel cs).map fun r => (c :: r.1, r.2) := by
  cases cs <;> simp [stringBody, hquote, hback, hc]

theorem stringBody_short (hl : l ≠ 'u') (h : shortEscape? l = some c) :
    stringBody opened (fuel + 1) ('\\' :: l :: cs) =
      (stringBody opened fuel cs).map fun r => (c :: r.1, r.2) := by
  simp [stringBody, hl, h]

theorem stringBody_unicode {p : Text.Point} (h : unicodePoint cs = .ok (p, rest)) :
    stringBody opened (fuel + 1) ('\\' :: 'u' :: cs) =
      (stringBody opened fuel rest).map fun r => (p.chars ++ r.1, r.2) := by
  simp [stringBody, h]

theorem shortEscape?_of_letter? (h : letters.letter? c = some l) :
    l ≠ 'u' ∧ shortEscape? l = some c := by
  have hall : ∀ e ∈ letters, e.2 ≠ 'u' ∧ e.2 ≠ '/' := by decide
  obtain ⟨hu, hslash⟩ := hall _ (Text.Letters.mem_of_letter?_eq_some h)
  refine ⟨hu, ?_⟩
  rw [shortEscape?, if_neg hslash]
  exact Text.Letters.charOf?_of_letter?_eq_some letters_pairwise h

/-- The four digits of a control are those of one code unit. -/
theorem unicodePoint_hexDigits (hc : c.toNat < 32) (hrest : rest ≠ []) :
    unicodePoint (Text.hexDigits 4 c.toNat ++ rest) = .ok (.char c, rest) := by
  obtain ⟨x, rest, rfl⟩ := List.exists_cons_of_ne_nil hrest
  -- There are few enough controls to try them all.
  have hnumber : ∀ n < 32, hexNumber? (n / 16 / 16 / 16 % 16).digitChar
      (n / 16 / 16 % 16).digitChar (n / 16 % 16).digitChar (n % 16).digitChar = some n := by decide
  have hunit : ∀ n < 32, isHighUnit n = false ∧ isLowUnit n = false := by decide
  obtain ⟨hhigh, hlow⟩ := hunit _ hc
  simp [unicodePoint, codeUnit, Text.hexDigits, hnumber _ hc, hhigh, hlow]

/-- What is written for a character is read as the character. -/
theorem stringBody_escapeChar (c : Char) (hrest : rest ≠ []) :
    stringBody opened (fuel + 1) (escapeChar c ++ rest) =
      (stringBody opened fuel rest).map fun r => (c :: r.1, r.2) := by
  unfold escapeChar
  split
  · rename_i l hl
    obtain ⟨hu, hshort⟩ := shortEscape?_of_letter? hl
    exact stringBody_short hu hshort
  · rename_i hnone
    split
    · rename_i hc
      have hchars : (Text.Point.char c).chars = [c] := by
        refine if_neg ?_
        rintro rfl
        revert hc
        decide
      rw [List.cons_append, List.cons_append, stringBody_unicode (unicodePoint_hexDigits hc hrest),
        hchars]
      rfl
    · rename_i hc
      refine stringBody_plain ?_ ?_ hc <;>
      · rintro rfl
        revert hnone
        decide

theorem escapeChar_ne_nil (c : Char) : escapeChar c ≠ [] := by
  unfold escapeChar
  split
  · exact List.cons_ne_nil _ _
  · split <;> exact List.cons_ne_nil _ _

theorem stringBody_flatMap_escapeChar (rest : List Char)
    (h : (cs.flatMap escapeChar).length < fuel) :
    stringBody opened fuel (cs.flatMap escapeChar ++ '"' :: rest) = .ok (cs, rest) := by
  induction cs generalizing fuel with
  | nil =>
    obtain ⟨fuel, rfl⟩ := Nat.exists_eq_add_one.mpr h
    exact stringBody_end rest
  | cons c cs ih =>
    have hpos := List.length_pos_iff.mpr (escapeChar_ne_nil c)
    rw [List.flatMap_cons, List.length_append] at h
    obtain ⟨fuel, rfl⟩ := Nat.exists_eq_add_one.mpr (Nat.zero_lt_of_lt h)
    have htail : cs.flatMap escapeChar ++ '"' :: rest ≠ [] := by simp
    rw [List.flatMap_cons, List.append_assoc, stringBody_escapeChar c htail, ih (by omega)]
    rfl

theorem exists_printString_eq (s : String) : ∃ cs, printString s = '"' :: cs := ⟨_, rfl⟩

theorem readString_printString (s : String) (rest : List Char)
    (h : (printString s).length ≤ fuel + 1) :
    readString fuel (printString s ++ rest) = .ok (s, rest) := by
  have hbody : (s.toList.flatMap escapeChar).length < fuel := by
    simp only [printString, List.cons_append, List.length_cons, List.length_append,
      List.length_nil] at h
    omega
  have htext : (printString s ++ rest).drop 1 = s.toList.flatMap escapeChar ++ '"' :: rest := by
    simp [printString]
  rw [readString, htext, stringBody_flatMap_escapeChar rest hbody]
  simp [Except.map]

/-- Nothing at the front of the text goes on with an integer before it. -/
def EndsNumber (rest : List Char) : Prop :=
  ∀ c ∈ rest.head?, c.isDigit = false ∧ c ≠ '.' ∧ c ≠ 'e' ∧ c ≠ 'E'

theorem ne_of_isDigit (hc : c.isDigit = true) (hd : d.isDigit = false) : c ≠ d := by
  rintro rfl
  rw [hc] at hd
  cases hd

theorem isDigit_of_mem_toDigits (h : c ∈ Nat.toDigits 10 n) : c.isDigit = true :=
  Nat.isDigit_of_mem_toDigits (by decide) (by decide) h

theorem decimal_toDigits (n : Nat) : decimal (Nat.toDigits 10 n) = n := by
  have h : (Nat.toDigits 10 n).foldl (fun m d => 10 * m + (d.toNat - 48)) 0 = n :=
    Nat.ofDigitChars_ten_toDigits
  simpa only [decimal, Nat.mul_comm] using h

/-- Only zero begins with a zero. -/
theorem head_toDigits_ne_zero (hn : 0 < n) :
    ∃ d ds, Nat.toDigits 10 n = d :: ds ∧ d ≠ '0' := by
  induction n using Nat.strongRecOn with
  | ind n ih =>
    by_cases hsmall : n < 10
    · have hdigit : ∀ m < 10, 0 < m → m.digitChar ≠ '0' := by decide
      exact ⟨_, [], Nat.toDigits_of_lt_base hsmall, hdigit n hsmall hn⟩
    · obtain ⟨d, ds, hd, hne⟩ := ih (n / 10) (by omega) (by omega)
      refine ⟨d, ds ++ [(n % 10).digitChar], ?_, hne⟩
      rw [Nat.toDigits_of_base_le (by decide) (by omega), hd]
      rfl

theorem takeWhile_isDigit_append (hds : ∀ d ∈ ds, d.isDigit = true) (hrest : EndsNumber rest) :
    (ds ++ rest).takeWhile Char.isDigit = ds ∧ (ds ++ rest).dropWhile Char.isDigit = rest := by
  rw [List.takeWhile_append_of_pos hds, List.dropWhile_append_of_pos hds]
  cases rest with
  | nil => simp
  | cons c rest =>
    have hc : c.isDigit = false := (hrest c rfl).1
    simp [hc]

theorem wholePart_toDigits (n : Nat) (hrest : EndsNumber rest) :
    wholePart (Nat.toDigits 10 n ++ rest) = (Nat.toDigits 10 n, rest) := by
  obtain ⟨htake, hdrop⟩ :=
    takeWhile_isDigit_append (fun _ => @isDigit_of_mem_toDigits _ n) hrest
  rcases Nat.eq_zero_or_pos n with rfl | hn
  · rfl
  · obtain ⟨d, ds, hd, hne⟩ := head_toDigits_ne_zero hn
    rw [hd] at htake hdrop ⊢
    simp only [wholePart, List.cons_append] at htake hdrop ⊢
    split
    · rename_i heq
      cases heq
      exact absurd rfl hne
    · rw [htake, hdrop]

theorem fractionPart_of_endsNumber (hrest : EndsNumber rest) : fractionPart rest = ([], rest) := by
  cases rest with
  | nil => rfl
  | cons c rest =>
    have hc := (hrest c rfl).2.1
    simp [fractionPart, hc]

theorem exponentPart_of_endsNumber (hrest : EndsNumber rest) :
    exponentPart rest = (none, rest) := by
  cases rest with
  | nil => rfl
  | cons c rest =>
    obtain ⟨-, -, he, hE⟩ := hrest c rfl
    simp [exponentPart, he, hE]

theorem minusSign_digit (hc : c.isDigit = true) (cs : List Char) :
    minusSign (c :: cs) = (false, c :: cs) := by
  simp [minusSign, ne_of_isDigit hc (show Char.isDigit '-' = false from rfl)]

theorem minusSign_printInt (n : Int) (rest : List Char) :
    minusSign (printInt n ++ rest) = (decide (n < 0), Nat.toDigits 10 n.natAbs ++ rest) := by
  by_cases hneg : n < 0
  · rw [printInt, if_pos hneg, decide_eq_true hneg]
    rfl
  · obtain ⟨d, ds, hd⟩ := List.exists_cons_of_ne_nil (@Nat.toDigits_ne_nil n.natAbs 10)
    have hdigit : d.isDigit = true := @isDigit_of_mem_toDigits _ n.natAbs (hd ▸ List.mem_cons_self)
    rw [printInt, if_neg hneg, decide_eq_false hneg, hd]
    exact minusSign_digit hdigit _

theorem exists_printInt_eq (n : Int) : ∃ d ds, d.isDigit = true ∧
    (printInt n = d :: ds ∨ printInt n = '-' :: d :: ds) := by
  obtain ⟨d, ds, hd⟩ := List.exists_cons_of_ne_nil (@Nat.toDigits_ne_nil n.natAbs 10)
  have hdigit : d.isDigit = true := @isDigit_of_mem_toDigits _ n.natAbs (hd ▸ List.mem_cons_self)
  refine ⟨d, ds, hdigit, ?_⟩
  rw [printInt, hd]
  split
  · exact Or.inr rfl
  · exact Or.inl rfl

theorem readNumber_printInt {n : Int} (hn : isWritable (.int n) = true) (hrest : EndsNumber rest) :
    readNumber (printInt n ++ rest) = .ok (.int n, rest) := by
  have hlength : ¬ maxDigits < (Nat.toDigits 10 n.natAbs).length := by
    simpa [isWritable] using hn
  have hsign : (if decide (n < 0) = true then -(n.natAbs : Int) else n.natAbs) = n := by
    simp only [decide_eq_true_eq]
    omega
  simp only [readNumber, minusSign_printInt, wholePart_toDigits _ hrest]
  split
  · rename_i hnil
    exact absurd (congrArg Prod.fst hnil) Nat.toDigits_ne_nil
  · rename_i hpair
    cases hpair
    simp only [fractionPart_of_endsNumber hrest, exponentPart_of_endsNumber hrest,
      List.isEmpty_nil, Option.isNone_none, Bool.and_self, if_true, if_neg hlength,
      decimal_toDigits, hsign]

theorem readScalar_null (rest : List Char) :
    readScalar (printScalar .null ++ rest) = .ok (.null, rest) := rfl

theorem readScalar_bool (b : Bool) (rest : List Char) :
    readScalar (printScalar (.bool b) ++ rest) = .ok (.bool b, rest) := by
  cases b <;> rfl

/-- No word begins like a number. -/
theorem word?_digit (hc : c.isDigit = true) {w : String × Value} (hw : w ∈ words) :
    word? w.1 (c :: cs) = none ∧ word? w.1 ('-' :: c :: cs) = none := by
  have hne : ∀ d : Char, d.isDigit = false → ¬ d = c := fun d hd => (ne_of_isDigit hc hd).symm
  simp only [words, List.mem_cons, List.not_mem_nil, or_false] at hw
  rcases hw with rfl | rfl | rfl | rfl | rfl | rfl <;> simp [word?, List.isPrefixOf, hne]

theorem readScalar_int {n : Int} (hn : isWritable (.int n) = true) (hrest : EndsNumber rest) :
    readScalar (printScalar (.int n) ++ rest) = .ok (.int n, rest) := by
  have hwords : (words.findSome? fun w =>
      (word? w.1 (printInt n ++ rest)).map fun rest => (w.2, rest)) = none := by
    refine List.findSome?_eq_none_iff.mpr fun w hw => Option.map_eq_none_iff.mpr ?_
    obtain ⟨d, ds, hd, h | h⟩ := exists_printInt_eq n
    · rw [h]
      exact (word?_digit hd hw).1
    · rw [h]
      exact (word?_digit hd hw).2
  rw [readScalar, printScalar, hwords]
  exact readNumber_printInt hn hrest

theorem return_not_mem_hexDigits (width n : Nat) : '\r' ∉ Text.hexDigits width n := by
  induction width generalizing n with
  | zero => exact List.not_mem_nil
  | succ width ih =>
    have hdigit : ∀ m < 16, '\r' ≠ m.digitChar := by decide
    rw [Text.hexDigits, List.mem_append, List.mem_singleton, not_or]
    exact ⟨ih _, hdigit _ (Nat.mod_lt _ (by decide))⟩

theorem return_not_mem_printString (s : String) : '\r' ∉ printString s := by
  have hchar : ∀ c, '\r' ∉ escapeChar c := by
    intro c
    unfold escapeChar
    split
    · rename_i l hl
      have hletters : ∀ e ∈ letters, '\r' ≠ e.2 := by decide
      have hne := hletters _ (Text.Letters.mem_of_letter?_eq_some hl)
      simp [hne]
    · rename_i hnone
      split
      · simp [return_not_mem_hexDigits]
      · rw [List.mem_singleton]
        rintro rfl
        revert hnone
        decide
  simp only [printString, List.cons_append, List.mem_cons, List.mem_append, List.mem_flatMap,
    List.not_mem_nil, or_false, not_or, not_exists, not_and]
  exact ⟨by decide, fun c _ => hchar c, by decide⟩

theorem return_not_mem_printInt (n : Int) : '\r' ∉ printInt n := by
  have hdigits : '\r' ∉ Nat.toDigits 10 n.natAbs := fun h =>
    absurd (isDigit_of_mem_toDigits h) (by decide)
  rw [printInt]
  split
  · simp [hdigits]
  · exact hdigits

end VueWrap.Json
