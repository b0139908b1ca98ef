import VueWrap.Text.Blank

/-! # Lines of a text

A text is cut at every line feed; joining the pieces with line feeds gives it
back. Indentation moves the lines that have a visible character.
-/

namespace VueWrap.Text

def splitAt (sep : Char) : List Char → List (List Char)
  | [] => [[]]
  | c :: cs =>
    if c = sep then [] :: splitAt sep cs
    else match splitAt sep cs with
      | [] => [[c]]
      | l :: ls => (c :: l) :: ls

def splitWhere {α : Type} (p : α → Bool) : List α → List (List α)
  | [] => [[]]
  | a :: as =>
    if p a then [] :: splitWhere p as
    else match splitWhere p as with
      | [] => [[a]]
      | l :: ls => (a :: l) :: ls

def joinWith (sep : Char) : List (List Char) → List Char
  | [] => []
  | [l] => l
  | l :: ls => l ++ sep :: joinWith sep ls

theorem splitAt_ne_nil (sep : Char) (cs : List Char) : splitAt sep cs ≠ [] := by
  cases cs with
  | nil => simp [splitAt]
  | cons c cs =>
    unfold splitAt
    split
    · simp
    · split <;> simp

theorem joinWith_splitAt (sep : Char) (cs : List Char) : joinWith sep (splitAt sep cs) = cs := by
  induction cs with
  | nil => rfl
  | cons c cs ih =>
    unfold splitAt
    split
    · rename_i h
      cases hs : splitAt sep cs with
      | nil => exact absurd hs (splitAt_ne_nil sep cs)
      | cons l ls => rw [hs] at ih; simp [joinWith, ih, h]
    · cases hs : splitAt sep cs with
      | nil => exact absurd hs (splitAt_ne_nil sep cs)
      | cons l ls =>
        rw [hs] at ih
        cases ls with
        | nil => simpa [joinWith] using ih
        | cons l' ls => simpa [joinWith] using ih

def lines (cs : List Char) : List (List Char) := splitAt '\n' cs

def unlines (ls : List (List Char)) : List Char := joinWith '\n' ls

/-- A line moved to the right by `n` places, unless it is blank. -/
def indentLine (n : Nat) (l : List Char) : List Char :=
  if allBlank l then l else List.replicate n ' ' ++ l

/-- All lines moved to the right by `n` places; the first one only if `first` holds. -/
def indent (n : Nat) (first : Bool) (cs : List Char) : List Char :=
  match lines cs with
  | [] => []
  | l :: ls => unlines ((if first then indentLine n l else l) :: ls.map (indentLine n))

end VueWrap.Text
