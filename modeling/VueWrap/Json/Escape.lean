import VueWrap.Text.Escape

/-! # Escapes in JSON

The characters of a string that have a letter after a backslash: the quotation
mark and the backslash stand for themselves, and five controls have letters.
-/

namespace VueWrap.Json

def letters : Text.Letters :=
  ('"', '"') :: ('\\', '\\') :: (Char.ofNat 8, 'b') :: (Char.ofNat 12, 'f') :: Text.Letters.layout

/-- No letter stands for two characters. -/
theorem letters_pairwise : letters.Pairwise fun e f => e.2 ≠ f.2 := by decide

end VueWrap.Json
