/-! # Escapes

A character that is not written as itself is written as a backslash with a letter
or with a number. `charOf?_of_letter?_eq_some` reads a letter back.
-/

namespace VueWrap.Text

/-- The least `width` lowercase hexadecimal digits of a number. -/
def hexDigits : Nat → Nat → List Char
  | 0, _ => []
  | width + 1, n => hexDigits width (n / 16) ++ [Nat.digitChar (n % 16)]

/-- Characters, each with the letter that stands for it after a backslash. -/
abbrev Letters := List (Char × Char)

namespace Letters

def layout : Letters := [('\n', 'n'), ('\r', 'r'), ('\t', 't')]

def letter? (ls : Letters) (c : Char) : Option Char := (ls.find? fun e => e.1 = c).map (·.2)

def charOf? (ls : Letters) (l : Char) : Option Char := (ls.find? fun e => e.2 = l).map (·.1)

theorem mem_of_letter?_eq_some {ls : Letters} {c l : Char} (h : ls.letter? c = some l) :
    (c, l) ∈ ls := by
  obtain ⟨e, he, rfl⟩ := Option.map_eq_some_iff.mp h
  have hc : e.1 = c := by simpa using List.find?_some he
  subst hc
  exact List.mem_of_find?_eq_some he

/-- Where no letter stands for two characters, the letter of a character stands for it. -/
theorem charOf?_of_letter?_eq_some {ls : Letters} (hls : ls.Pairwise fun e f => e.2 ≠ f.2)
    {c l : Char} (h : ls.letter? c = some l) : ls.charOf? l = some c := by
  have hmem := mem_of_letter?_eq_some h
  clear h
  induction ls with
  | nil => cases hmem
  | cons e ls ih =>
    obtain ⟨hhead, htail⟩ := List.pairwise_cons.mp hls
    rcases List.mem_cons.mp hmem with rfl | hin
    · simp [charOf?]
    · have hne : e.2 ≠ l := hhead _ hin
      simpa [charOf?, List.find?_cons, hne] using ih htail hin

end Letters

end VueWrap.Text
