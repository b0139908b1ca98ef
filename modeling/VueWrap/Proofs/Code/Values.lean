import VueWrap.Proofs.Code.Reading
import VueWrap.Proofs.Json.ReadBack

/-! # Written values as code

What is written for a value is balanced, in any layout that puts nothing but
blanks around the items: the strings of a value are literals, whatever characters
they have, and its numbers have no brackets.
-/

namespace VueWrap.Code

open Json

variable {c : Char} {due : List Char} {l : Layout}

theorem endsLine_of_letter? {d : Char} (h : letters.letter? c = some d) :
    endsLine d = false := by
  have hall : ∀ e ∈ letters, endsLine e.2 = false := by decide
  exact hall _ (Text.Letters.mem_of_letter?_eq_some h)

theorem quotable_hexDigits (h : c.toNat < 32) :
    Quotable ('u' :: Text.hexDigits 4 c.toNat) := by
  have hall : ∀ n < 32, Quotable ('u' :: Text.hexDigits 4 n) := by decide
  exact hall _ h

/-- A character that is not escaped stands for itself. -/
theorem isQuotable_of_letter?_eq_none (h : letters.letter? c = none) : isQuotable c = true := by
  have hne : ∀ d, letters.letter? d ≠ none → c ≠ d := by
    rintro d hd rfl
    exact hd h
  have hquote := hne '"' (by decide)
  have hback := hne '\\' (by decide)
  have hline := hne '\n' (by decide)
  have hreturn := hne '\r' (by decide)
  simp [isQuotable, endsLine, hquote, hback, hline, hreturn]

/-- Behind a backslash anything but a line end goes on with the literal. -/
theorem reads_backslash {d : Char} {cs : List Char} (hd : endsLine d = false)
    (h : Reads ⟨.literal, due⟩ cs ⟨.literal, due⟩) :
    Reads ⟨.literal, due⟩ ('\\' :: d :: cs) ⟨.literal, due⟩ := by
  refine reads_cons_iff.mpr ⟨⟨.escape, due⟩, rfl, reads_cons_iff.mpr ⟨⟨.literal, due⟩, ?_, h⟩⟩
  simp [Reader.read, hd]

theorem reads_escapeChar (c : Char) (due : List Char) :
    Reads ⟨.literal, due⟩ (escapeChar c) ⟨.literal, due⟩ := by
  unfold escapeChar
  split
  · rename_i d hd
    exact reads_backslash (endsLine_of_letter? hd) (reads_nil _)
  · rename_i hnone
    split
    · rename_i hc
      obtain ⟨-, hdigits⟩ := List.forall_mem_cons.mp (quotable_hexDigits hc)
      exact reads_backslash rfl (Quotable.reads hdigits due)
    · have hc : Quotable [c] := List.forall_mem_singleton.mpr (isQuotable_of_letter?_eq_none hnone)
      exact hc.reads due

theorem balanced_printString (s : String) : Balanced (printString s) := by
  intro due
  have hbody : ∀ cs : List Char, Reads ⟨.literal, due⟩ (cs.flatMap escapeChar) ⟨.literal, due⟩ := by
    intro cs
    induction cs with
    | nil => exact reads_nil _
    | cons c cs ih => exact (reads_escapeChar c due).append ih
  exact reads_cons_iff.mpr ⟨⟨.literal, due⟩, rfl, (hbody _).append rfl⟩

theorem isBare_of_isDigit (h : c.isDigit = true) : isBare c = true := by
  have hne : ∀ d : Char, d.isDigit = false → c ≠ d := fun d => ne_of_isDigit h
  have hopening : closing? c = none := by
    unfold closing?
    split
    · exact absurd rfl (hne '(' rfl)
    · exact absurd rfl (hne '[' rfl)
    · exact absurd rfl (hne '{' rfl)
    · rfl
  simp [isBare, isClosing, hopening, hne]

theorem bare_toDigits (n : Nat) : Bare (Nat.toDigits 10 n) :=
  fun _ hc => isBare_of_isDigit (isDigit_of_mem_toDigits hc)

theorem bare_printInt (n : Int) : Bare (printInt n) := by
  unfold printInt
  split
  · exact .cons rfl (bare_toDigits _)
  · exact bare_toDigits _

theorem bare_significant (n : Nat) : Bare (Double.significant n) := by
  intro c hc
  have hmem := (List.dropWhile_suffix _).subset (List.mem_reverse.mp hc)
  exact bare_toDigits n c (List.mem_reverse.mp hmem)

theorem bare_layout {ds : List Char} (hds : Bare ds) (lead : Int) :
    Bare (Double.layout ds lead) := by
  have hzeros : ∀ n, Bare (List.replicate n '0') := by
    intro n c hc
    rw [(List.mem_replicate.mp hc).2]
    rfl
  unfold Double.layout
  dsimp only
  split
  · refine Bare.append ?_ (.cons rfl (.cons ?_ ?_))
    · split
      · exact hds
      · exact hds
      · obtain ⟨hd, hds⟩ := List.forall_mem_cons.mp hds
        exact .cons hd (.cons rfl hds)
    · split <;> rfl
    · split
      · exact .cons rfl (bare_toDigits _)
      · exact bare_toDigits _
  · split
    · exact Bare.append (.cons rfl (.cons rfl (hzeros _))) hds
    · split
      · exact (hds.append (hzeros _)).append (by decide)
      · have htake : Bare (ds.take (lead.toNat + 1)) := fun c hc => hds c (List.mem_of_mem_take hc)
        have hdrop : Bare (ds.drop (lead.toNat + 1)) := fun c hc => hds c (List.mem_of_mem_drop hc)
        exact htake.append (.cons rfl hdrop)

theorem bare_text {names : Double.Names} (hnan : Bare names.nan.toList)
    (hinfinity : Bare names.infinity.toList) (x : Double) : Bare (x.text names) := by
  have hsign : Bare (if x.negative then ['-'] else []) := by split <;> decide
  unfold Double.text
  dsimp only
  split
  · exact hnan
  · split
    · exact hsign.append hinfinity
    · split
      · exact hsign.append (by decide)
      · exact hsign.append (bare_layout (bare_significant _) _)

theorem bare_printScalar (v : Value) : Bare (printScalar v) := by
  unfold printScalar
  split
  · decide
  · decide
  · exact bare_printInt _
  · exact bare_text (by decide) (by decide) _
  · decide

theorem bare_of_isSpace {cs : List Char} (h : ∀ c ∈ cs, isSpace c = true) : Bare cs := by
  intro c hc
  have hspace := h c hc
  simp only [isSpace, Bool.or_eq_true, beq_iff_eq] at hspace
  rcases hspace with ((rfl | rfl) | rfl) | rfl <;> rfl

theorem bare_comma (hl : l.Blank) (depth : Nat) : Bare (l.comma depth) := by
  obtain ⟨sp, hcomma, hsp⟩ := exists_comma_eq hl depth
  rw [hcomma]
  exact .cons rfl (bare_of_isSpace hsp)

/-- Items between an opening bracket and the one that closes it. -/
theorem Balanced.between {opening close : Char} {cs : List Char} (h : Balanced cs)
    (hopen : ∀ due, Reader.read ⟨.code, due⟩ opening = some ⟨.code, close :: due⟩)
    (hclose : ∀ due, Reader.read ⟨.code, close :: due⟩ close = some ⟨.code, due⟩) :
    Balanced (opening :: cs ++ [close]) := by
  intro due
  refine reads_cons_iff.mpr ⟨_, hopen due, (h _).append ?_⟩
  exact reads_cons_iff.mpr ⟨_, hclose due, reads_nil _⟩

theorem balanced_break (hl : l.Blank) (depth : Nat) : Balanced (l.break depth) :=
  (bare_of_isSpace (hl depth)).balanced

theorem balanced_field (k : String) {cs : List Char} (h : Balanced cs) :
    Balanced (printString k ++ ':' :: ' ' :: cs) := by
  have hcolon : Balanced [':', ' '] := fun _ => rfl
  exact (balanced_printString k).append (hcolon.append h)

mutual

theorem balanced_printAt (hl : l.Blank) (depth : Nat) : (v : Value) → Balanced (printAt l depth v)
  | .str s => balanced_printString s
  | .arr [] => fun _ => rfl
  | .arr (v :: vs) => by
    have hfirst := balanced_printAt hl (depth + 1) v
    have hrest := balanced_printItems hl (depth + 1) vs
    have hitems := ((balanced_break hl (depth + 1)).append hfirst).append hrest
    exact (hitems.append (balanced_break hl depth)).between (fun _ => rfl) fun _ => rfl
  | .obj [] => fun _ => rfl
  | .obj ((k, v) :: fs) => by
    have hfirst := balanced_field k (balanced_printAt hl (depth + 1) v)
    have hrest := balanced_printFields hl (depth + 1) fs
    have hfields := ((balanced_break hl (depth + 1)).append hfirst).append hrest
    exact (hfields.append (balanced_break hl depth)).between (fun _ => rfl) fun _ => rfl
  | .null => (bare_printScalar _).balanced
  | .bool _ => (bare_printScalar _).balanced
  | .int _ => (bare_printScalar _).balanced
  | .float _ => (bare_printScalar _).balanced

theorem balanced_printItems (hl : l.Blank) (depth : Nat) :
    (vs : List Value) → Balanced (printItems l depth vs)
  | [] => balanced_nil
  | v :: vs => ((bare_comma hl depth).balanced.append (balanced_printAt hl depth v)).append
      (balanced_printItems hl depth vs)

theorem balanced_printFields (hl : l.Blank) (depth : Nat) :
    (fs : List (String × Value)) → Balanced (printFields l depth fs)
  | [] => balanced_nil
  | (k, v) :: fs =>
    ((bare_comma hl depth).balanced.append (balanced_field k (balanced_printAt hl depth v))).append
      (balanced_printFields hl depth fs)

end

end VueWrap.Code
