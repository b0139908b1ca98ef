import VueWrap.Text.Blank

/-! # Words of a text

A word is a run of characters that are not blank. A chunk is a word with the
blanks after it; the first chunk has the blanks before it as well, so that
together the chunks are the text again (`flatten_chunks`).
-/

namespace VueWrap.Text

def firstChunk (cs : List Char) : List Char × List Char :=
  let before := cs.takeWhile isBlank
  let rest := cs.dropWhile isBlank
  let word := rest.takeWhile (!isBlank ·)
  let rest := rest.dropWhile (!isBlank ·)
  (before ++ word ++ rest.takeWhile isBlank, rest.dropWhile isBlank)

theorem firstChunk_append (cs : List Char) : (firstChunk cs).1 ++ (firstChunk cs).2 = cs := by
  simp [firstChunk, List.takeWhile_append_dropWhile]

theorem length_firstChunk_lt {cs : List Char} (h : cs ≠ []) :
    (firstChunk cs).2.length < cs.length := by
  have hne : (firstChunk cs).1 ≠ [] := by
    cases cs with
    | nil => exact absurd rfl h
    | cons c cs => cases hc : isBlank c <;> simp [firstChunk, hc]
  have hlen := congrArg List.length (firstChunk_append cs)
  rw [List.length_append] at hlen
  have := List.length_pos_iff.mpr hne
  omega

/-- The chunks of a text. One that is all blank is a chunk as well. -/
def chunks (cs : List Char) : List (List Char) :=
  if _h : cs = [] then []
  else (firstChunk cs).1 :: chunks (firstChunk cs).2
termination_by cs.length
decreasing_by exact length_firstChunk_lt _h

theorem flatten_chunks (cs : List Char) : (chunks cs).flatten = cs := by
  fun_induction chunks cs with
  | case1 => simp
  | case2 cs _ ih => rw [List.flatten_cons, ih, firstChunk_append]

def words (cs : List Char) : List (List Char) :=
  ((chunks cs).map trimBlanks).filter (!·.isEmpty)

end VueWrap.Text
