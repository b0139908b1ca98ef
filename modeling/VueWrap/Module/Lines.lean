/-! # Lines of a module

A module is put together from lines, each made of pieces, and from lists in
which every line but the last ends with a mark.
-/

namespace VueWrap.Module

def text (pieces : List String) : List Char := pieces.flatMap String.toList

def line (pieces : List String) : List Char := text pieces ++ ['\n']

/-- An item on a line of its own, or on several, with the mark `mark` after all but the last. -/
def listed (mark : String) : List (List Char) → List Char
  | [] => []
  | [item] => item ++ ['\n']
  | item :: next :: items => item ++ mark.toList ++ '\n' :: listed mark (next :: items)

def when (c : Bool) (cs : List Char) : List Char := if c then cs else []

@[simp] theorem text_nil : text [] = [] := rfl

@[simp] theorem text_cons (s : String) (ss : List String) :
    text (s :: ss) = s.toList ++ text ss := by simp [text]

@[simp] theorem when_true (cs : List Char) : when true cs = cs := rfl

@[simp] theorem when_false (cs : List Char) : when false cs = [] := rfl

@[simp] theorem listed_nil (mark : String) : listed mark [] = [] := rfl

@[simp] theorem listed_singleton (mark : String) (item : List Char) :
    listed mark [item] = item ++ ['\n'] := rfl

end VueWrap.Module
