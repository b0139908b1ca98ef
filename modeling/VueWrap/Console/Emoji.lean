import VueWrap.Console.Emoji.Table
import VueWrap.Text.Blank
import VueWrap.Text.Case
import VueWrap.Text.Lines

/-! # Emoji by their names

A name between two colons stands for its emoji, and an ending of the name may ask
for the form of a letter or of a picture. Colons around anything else stand for
themselves.
-/

namespace VueWrap.Console.Emoji

/-- Names and emoji by turns, as pairs. -/
def pairs : List String → List (String × String)
  | name :: emoji :: rest => (name, emoji) :: pairs rest
  | _ => []

def names : List (String × String) :=
  rows.flatMap fun r => pairs ((Text.splitAt ' ' r.toList).map String.ofList)

/-- The endings of a name, with the character that follows the emoji for each. -/
def forms : List (String × Char) := [("-text", '\ufe0e'), ("-emoji", '\ufe0f')]

def emoji? (code : List Char) : Option (List Char) :=
  let (name, form) := match forms.find? fun f => f.1.toList.isSuffixOf code with
    | some f => (code.take (code.length - f.1.length), [f.2])
    | none => (code, [])
  (names.lookup (Text.lower (String.ofList name))).map fun e => e.toList ++ form

/-- The text up to the next colon, if there is no blank on the way, and what follows the colon. -/
def code? (cs : List Char) : Option (List Char × List Char) :=
  let code := cs.takeWhile fun c => c != ':' && !Text.isBlank c
  match cs.drop code.length with
  | ':' :: rest => some (code, rest)
  | _ => none

theorem eq_append_of_code?_eq_some {cs code rest : List Char} (h : code? cs = some (code, rest)) :
    cs = code ++ ':' :: rest := by
  simp only [code?] at h
  split at h
  · rename_i hd
    cases h
    rw [← hd]
    exact (List.prefix_iff_eq_append.mp (List.takeWhile_prefix _)).symm
  · cases h

theorem length_lt_of_code?_eq_some {cs code rest : List Char}
    (h : code? cs = some (code, rest)) : rest.length < cs.length := by
  rw [eq_append_of_code?_eq_some h, List.length_append, List.length_cons]
  omega

def replaced : List Char → List Char
  | [] => []
  | c :: cs =>
    if c = ':' then
      match _h : code? cs with
      | none => c :: replaced cs
      | some (code, rest) => (emoji? code).getD (c :: code ++ [':']) ++ replaced rest
    else c :: replaced cs
termination_by cs => cs.length
decreasing_by
  · exact Nat.lt_succ_self _
  · exact Nat.lt_succ_of_lt (length_lt_of_code?_eq_some _h)
  · exact Nat.lt_succ_self _

end VueWrap.Console.Emoji
