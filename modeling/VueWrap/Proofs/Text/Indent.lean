import VueWrap.Proofs.Path.Segments
import VueWrap.Text.Lines

/-! # Indentation adds up and can be taken back

Indentation changes a text line by line, and what is done to single lines is done to
the text, as long as no line is broken. A line stays blank or visible where it is moved,
so that moving it twice is moving it by the sum, and the places that it has been moved
by can be found again.
-/

namespace VueWrap.Text

variable {f g : List Char → List Char} {cs l : List Char} {ls : List (List Char)} {m n : Nat}
  {first : Bool}

/-- Joining lines loses none of them. -/
theorem lines_unlines (hne : ls ≠ []) (h : ∀ l ∈ ls, '\n' ∉ l) : lines (unlines ls) = ls := by
  induction ls with
  | nil => exact absurd rfl hne
  | cons l ls ih =>
    obtain ⟨hl, hls⟩ := List.forall_mem_cons.mp h
    cases ls with
    | nil => exact splitAt_of_not_mem hl
    | cons l' ls =>
      have hcons : unlines (l :: l' :: ls) = l ++ '\n' :: unlines (l' :: ls) := rfl
      have hrest : splitAt '\n' (unlines (l' :: ls)) = l' :: ls := ih (List.cons_ne_nil _ _) hls
      rw [lines, hcons, splitAt_append_sep, splitAt_of_not_mem hl, hrest, List.singleton_append]

/-- A text whose lines are changed by `f`, the first one only if `first` holds. -/
def onLines (f : List Char → List Char) (first : Bool) (cs : List Char) : List Char :=
  match lines cs with
  | [] => []
  | l :: ls => unlines ((if first then f l else l) :: ls.map f)

theorem indent_eq (n : Nat) (first : Bool) (cs : List Char) :
    indent n first cs = onLines (indentLine n) first cs := rfl

/-- The change leaves a line in one piece. -/
def KeepsLine (f : List Char → List Char) : Prop := ∀ l, '\n' ∉ l → '\n' ∉ f l

theorem exists_lines_eq_cons (cs : List Char) : ∃ l ls, lines cs = l :: ls :=
  List.exists_cons_of_ne_nil (splitAt_ne_nil '\n' cs)

theorem onLines_of_lines (h : lines cs = l :: ls) :
    onLines f first cs = unlines ((if first then f l else l) :: ls.map f) := by
  rw [onLines, h]

theorem lines_onLines (hf : KeepsLine f) (h : lines cs = l :: ls) :
    lines (onLines f first cs) = (if first then f l else l) :: ls.map f := by
  have hmem : ∀ l' ∈ l :: ls, '\n' ∉ l' := fun l' hl' => not_mem_of_mem_splitAt (h.symm ▸ hl')
  obtain ⟨hl, hls⟩ := List.forall_mem_cons.mp hmem
  rw [onLines_of_lines h]
  refine lines_unlines (List.cons_ne_nil _ _) (List.forall_mem_cons.mpr ⟨?_, ?_⟩)
  · cases first with
    | false => exact hl
    | true => exact hf l hl
  · intro l' hl'
    obtain ⟨l₀, hl₀, rfl⟩ := List.mem_map.mp hl'
    exact hf l₀ (hls l₀ hl₀)

theorem length_lines_onLines (hf : KeepsLine f) :
    (lines (onLines f first cs)).length = (lines cs).length := by
  obtain ⟨l, ls, h⟩ := exists_lines_eq_cons cs
  rw [lines_onLines hf h, h]
  simp

/-- Two changes one after the other are one change. -/
theorem onLines_onLines (hf : KeepsLine f) :
    onLines g first (onLines f first cs) = onLines (g ∘ f) first cs := by
  obtain ⟨l, ls, h⟩ := exists_lines_eq_cons cs
  rw [onLines_of_lines (lines_onLines hf h), onLines_of_lines h, List.map_map]
  cases first <;> rfl

theorem onLines_id (cs : List Char) : onLines id first cs = cs := by
  obtain ⟨l, ls, h⟩ := exists_lines_eq_cons cs
  have hjoin : unlines (lines cs) = cs := joinWith_splitAt '\n' cs
  rw [onLines_of_lines h, List.map_id, id, ite_self, ← h, hjoin]

theorem allBlank_replicate_append (n : Nat) (l : List Char) :
    allBlank (List.replicate n ' ' ++ l) = allBlank l := by
  have hspace : isBlank ' ' = true := by decide
  simp [allBlank, hspace]

/-- A line that is moved stays blank or visible. -/
theorem allBlank_indentLine (n : Nat) (l : List Char) : allBlank (indentLine n l) = allBlank l := by
  rw [indentLine]
  split
  · rfl
  · exact allBlank_replicate_append n l

theorem indentLine_indentLine (m n : Nat) (l : List Char) :
    indentLine n (indentLine m l) = indentLine (m + n) l := by
  rw [indentLine, allBlank_indentLine]
  split
  · rename_i h
    rw [indentLine, indentLine, if_pos h, if_pos h]
  · rename_i h
    rw [indentLine, indentLine, if_neg h, if_neg h, ← List.append_assoc,
      List.replicate_append_replicate, Nat.add_comm]

theorem keepsLine_indentLine (n : Nat) : KeepsLine (indentLine n) := by
  intro l hl
  rw [indentLine]
  split
  · exact hl
  · simp [List.mem_append, List.mem_replicate, hl]

/-- A line without its first `n` characters, unless it is blank. -/
def outdentLine (n : Nat) (l : List Char) : List Char := if allBlank l then l else l.drop n

/-- All lines without their first `n` characters, unless they are blank; the first line only if
`first` holds. -/
def outdent (n : Nat) (first : Bool) (cs : List Char) : List Char :=
  onLines (outdentLine n) first cs

theorem outdentLine_indentLine (n : Nat) (l : List Char) : outdentLine n (indentLine n l) = l := by
  rw [outdentLine, allBlank_indentLine, indentLine]
  split
  · rfl
  · exact List.drop_left' List.length_replicate

theorem indent_indent (m n : Nat) (first : Bool) (cs : List Char) :
    indent n first (indent m first cs) = indent (m + n) first cs := by
  have hcomp : indentLine n ∘ indentLine m = indentLine (m + n) :=
    funext fun l => indentLine_indentLine m n l
  rw [indent_eq, indent_eq, indent_eq, onLines_onLines (keepsLine_indentLine m), hcomp]

theorem outdent_indent (n : Nat) (first : Bool) (cs : List Char) :
    outdent n first (indent n first cs) = cs := by
  have hcomp : outdentLine n ∘ indentLine n = id := funext fun l => outdentLine_indentLine n l
  rw [outdent, indent_eq, onLines_onLines (keepsLine_indentLine n), hcomp, onLines_id]

/-- Indenting a text twice is indenting it by the sum, the text has as many lines as before, and
without the places that its visible lines have been moved by it is the text again. -/
theorem indent_additive (m n : Nat) (first : Bool) (cs : List Char) :
    indent n first (indent m first cs) = indent (m + n) first cs ∧
      (lines (indent m first cs)).length = (lines cs).length ∧
      outdent m first (indent m first cs) = cs := by
  refine ⟨indent_indent m n first cs, ?_, outdent_indent m first cs⟩
  rw [indent_eq]
  exact length_lines_onLines (keepsLine_indentLine m)

end VueWrap.Text
