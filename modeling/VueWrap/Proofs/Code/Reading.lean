import VueWrap.Text.Lines

/-! # Reading code

A reader goes through code from left to right. It keeps the closing brackets that
are due, nearest first, and passes over string literals. It stops at a closing
bracket that is not due and at a line end inside of a literal. Code is well formed
if the reader comes to its end with nothing left open.
-/

namespace VueWrap.Code

/-- Where a reader is: outside of string literals, in one, or behind a backslash in one. -/
inductive Mode where
  | code
  | literal
  | escape
deriving DecidableEq, Repr

/-- A reader on its way, and the closing brackets that are due, nearest first. -/
structure Reader where
  mode : Mode
  due : List Char
deriving DecidableEq, Repr

def closing? : Char → Option Char
  | '(' => some ')'
  | '[' => some ']'
  | '{' => some '}'
  | _ => none

def isClosing (c : Char) : Bool := c == ')' || c == ']' || c == '}'

/-- A literal may not go on over these characters. -/
def endsLine (c : Char) : Bool := c == '\n' || c == '\r'

/-- The reader after a closing bracket, which has to be the nearest one that is due. -/
def Reader.close (r : Reader) (c : Char) : Option Reader :=
  match r.due with
  | d :: ds => if c = d then some { r with due := ds } else none
  | [] => none

def Reader.read (r : Reader) (c : Char) : Option Reader :=
  match r.mode with
  | .code =>
    if c = '"' then some { r with mode := .literal }
    else match closing? c with
      | some d => some { r with due := d :: r.due }
      | none => if isClosing c then r.close c else some r
  | .literal =>
    if endsLine c then none
    else if c = '"' then some { r with mode := .code }
    else if c = '\\' then some { r with mode := .escape }
    else some r
  | .escape => if endsLine c then none else some { r with mode := .literal }

def Reads (r : Reader) (cs : List Char) (r' : Reader) : Prop := cs.foldlM Reader.read r = some r'

/-- Every bracket is closed by the matching one, and every literal by its quotation mark. -/
def WellFormed (cs : List Char) : Prop := Reads ⟨.code, []⟩ cs ⟨.code, []⟩

/-- The text closes what it opens and nothing else. -/
def Balanced (cs : List Char) : Prop := ∀ due, Reads ⟨.code, due⟩ cs ⟨.code, due⟩

instance (r : Reader) (cs : List Char) (r' : Reader) : Decidable (Reads r cs r') :=
  inferInstanceAs (Decidable (_ = _))

instance (cs : List Char) : Decidable (WellFormed cs) := inferInstanceAs (Decidable (Reads _ _ _))

variable {r r' : Reader} {c : Char} {cs ds : List Char} {due : List Char}

theorem reads_nil (r : Reader) : Reads r [] r := rfl

theorem reads_append_iff : Reads r (cs ++ ds) r' ↔ ∃ m, Reads r cs m ∧ Reads m ds r' := by
  unfold Reads
  rw [List.foldlM_append]
  exact Option.bind_eq_some_iff

theorem reads_cons_iff : Reads r (c :: cs) r' ↔ ∃ m, r.read c = some m ∧ Reads m cs r' := by
  unfold Reads
  rw [List.foldlM_cons]
  exact Option.bind_eq_some_iff

theorem Reads.append {m : Reader} (hc : Reads r cs m) (hd : Reads m ds r') :
    Reads r (cs ++ ds) r' :=
  reads_append_iff.mpr ⟨m, hc, hd⟩

theorem Balanced.append (hc : Balanced cs) (hd : Balanced ds) : Balanced (cs ++ ds) :=
  fun due => (hc due).append (hd due)

theorem balanced_nil : Balanced [] := fun due => reads_nil ⟨.code, due⟩

theorem balanced_flatten {css : List (List Char)} (h : ∀ cs ∈ css, Balanced cs) :
    Balanced css.flatten := by
  induction css with
  | nil => exact balanced_nil
  | cons cs css ih =>
    rw [List.forall_mem_cons] at h
    exact h.1.append (ih h.2)

theorem Balanced.wellFormed (h : Balanced cs) : WellFormed cs := h []

example : WellFormed ['f', '(', '"', ']', '"', ')'] ∧ ¬ WellFormed ['(', ']'] := by decide

/-- Characters that each leave the reader where it is do so in a row. -/
theorem reads_of_forall (h : ∀ c ∈ cs, r.read c = some r) : Reads r cs r := by
  induction cs with
  | nil => exact reads_nil r
  | cons c cs ih =>
    rw [List.forall_mem_cons] at h
    exact reads_cons_iff.mpr ⟨r, h.1, ih h.2⟩

/-- The character is no bracket and no quotation mark. -/
def isBare (c : Char) : Bool := c != '"' && !(closing? c).isSome && !isClosing c

/-- The text has no bracket and no quotation mark, as a name of letters, digits, underscores and
dollars. -/
def Bare (cs : List Char) : Prop := ∀ c ∈ cs, isBare c = true

instance (cs : List Char) : Decidable (Bare cs) := List.decidableBAll _ cs

theorem read_of_isBare (h : isBare c = true) : Reader.read ⟨.code, due⟩ c = some ⟨.code, due⟩ := by
  simp only [isBare, Bool.and_eq_true, bne_iff_ne, Bool.not_eq_true', Option.isSome_eq_false_iff,
    Option.isNone_iff_eq_none] at h
  obtain ⟨⟨hquote, hopening⟩, hclosing⟩ := h
  simp [Reader.read, hquote, hopening, hclosing]

theorem Bare.balanced (h : Bare cs) : Balanced cs :=
  fun _ => reads_of_forall fun c hc => read_of_isBare (h c hc)

theorem Bare.cons (hc : isBare c = true) (h : Bare cs) : Bare (c :: cs) :=
  List.forall_mem_cons.mpr ⟨hc, h⟩

theorem Bare.append (hc : Bare cs) (hd : Bare ds) : Bare (cs ++ ds) :=
  List.forall_mem_append.mpr ⟨hc, hd⟩

def isQuotable (c : Char) : Bool := !endsLine c && c != '"' && c != '\\'

/-- The text may stand in a literal: it has no quotation mark, no backslash and no line end. -/
def Quotable (cs : List Char) : Prop := ∀ c ∈ cs, isQuotable c = true

instance (cs : List Char) : Decidable (Quotable cs) := List.decidableBAll _ cs

theorem read_of_isQuotable (h : isQuotable c = true) :
    Reader.read ⟨.literal, due⟩ c = some ⟨.literal, due⟩ := by
  simp only [isQuotable, Bool.and_eq_true, bne_iff_ne, Bool.not_eq_true'] at h
  simp [Reader.read, h]

theorem Quotable.reads (h : Quotable cs) (due : List Char) :
    Reads ⟨.literal, due⟩ cs ⟨.literal, due⟩ :=
  reads_of_forall fun c hc => read_of_isQuotable (h c hc)

theorem Quotable.append (hc : Quotable cs) (hd : Quotable ds) : Quotable (cs ++ ds) :=
  List.forall_mem_append.mpr ⟨hc, hd⟩

/-- A line ends outside of literals only. -/
theorem eq_of_read_lineEnd (h : r.read '\n' = some r') : r' = r ∧ r.mode = .code := by
  obtain ⟨mode, due⟩ := r
  cases mode with
  | code => exact ⟨(Option.some.inj h).symm, rfl⟩
  | literal => cases h
  | escape => cases h

theorem bare_replicate_space (n : Nat) : Bare (List.replicate n ' ') := by
  intro c hc
  rw [(List.mem_replicate.mp hc).2]
  rfl

theorem exists_unlines_indentLine_cons (n : Nat) (l : List Char) (ls : List (List Char)) :
    ∃ sp, Bare sp ∧ Text.unlines (Text.indentLine n l :: ls) = sp ++ Text.unlines (l :: ls) := by
  unfold Text.indentLine
  split
  · exact ⟨[], List.forall_mem_nil _, rfl⟩
  · refine ⟨List.replicate n ' ', bare_replicate_space n, ?_⟩
    cases ls with
    | nil => rfl
    | cons l' ls => exact List.append_assoc _ _ _

theorem reads_unlines_map_indentLine {l : List Char} {ls : List (List Char)} (n : Nat)
    (h : Reads r (Text.unlines (l :: ls)) r') :
    Reads r (Text.unlines (l :: ls.map (Text.indentLine n))) r' := by
  induction ls generalizing l r with
  | nil => exact h
  | cons l' ls ih =>
    obtain ⟨m, hl, hmore⟩ := reads_append_iff.mp h
    obtain ⟨m', hend, hrest⟩ := reads_cons_iff.mp hmore
    obtain ⟨rfl, hmode⟩ := eq_of_read_lineEnd hend
    obtain ⟨sp, hsp, heq⟩ := exists_unlines_indentLine_cons n l' (ls.map (Text.indentLine n))
    have hspaces : Reads m' sp m' := by
      obtain ⟨_, due⟩ := m'
      cases hmode
      exact hsp.balanced due
    refine hl.append (reads_cons_iff.mpr ⟨m', hend, ?_⟩)
    show Reads m' (Text.unlines (Text.indentLine n l' :: ls.map (Text.indentLine n))) r'
    rw [heq]
    exact hspaces.append (ih hrest)

/-- Blanks in front of lines do not matter, since no literal goes on over a line end. -/
theorem Reads.indent (h : Reads r cs r') (n : Nat) : Reads r (Text.indent n false cs) r' := by
  obtain ⟨l, ls, hlines⟩ := List.exists_cons_of_ne_nil (Text.splitAt_ne_nil '\n' cs)
  have hcs : Text.unlines (l :: ls) = cs := hlines ▸ Text.joinWith_splitAt '\n' cs
  rw [Text.indent, Text.lines, hlines]
  exact reads_unlines_map_indentLine n (hcs.symm ▸ h)

end VueWrap.Code
