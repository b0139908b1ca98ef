import VueWrap.Proofs.FileTree.Edits
import VueWrap.Proofs.Outcome
import VueWrap.Proofs.Path.Relative

/-! # Files below a directory

A path below a directory leads on from the place of the directory. Where the
directory has no directories in it, a file can be written below it just when its
name is one segment, not too long, and the system can be handed its path.
-/

namespace VueWrap.FileTree

open VueWrap.Path (child segments)

variable {t t' : FileTree} {place q : List String} {path dir name s : String} {bytes : ByteArray}
  {rest : List String}

theorem walk_append (t : FileTree) (place front rest : List String) :
    t.walk place (front ++ rest) = t.walk place front >>= fun q => t.walk q rest := by
  induction front generalizing place with
  | nil => rfl
  | cons s front ih =>
    rw [List.cons_append, walk, walk]
    split
    · rfl
    · rfl
    · split
      · exact ih _
      · split
        · rfl
        · exact ih _

theorem segments_child (hrel : Path.isAbsolute name = false) (dir : String) :
    segments (child dir name) = segments dir ++ segments name := by
  rw [child, if_neg (by simp [hrel]), Path.segments_tidy, Path.segments_join hrel,
    Path.segments_tidy]

theorem isAbsolute_child (hrel : Path.isAbsolute name = false) (dir : String) :
    Path.isAbsolute (child dir name) = Path.isAbsolute dir := by
  rw [child, if_neg (by simp [hrel]), Path.isAbsolute_tidy, Path.isAbsolute_join hrel,
    Path.isAbsolute_tidy]

theorem tidy_child (dir name : String) : Path.tidy (child dir name) = child dir name := by
  unfold child
  split <;> exact Path.tidy_tidy _

/-- A path below a directory leads on from there, where it can be handed to the system. -/
theorem locate_child_eq_ok_iff (hl : t.locate dir = .ok place)
    (hrel : Path.isAbsolute name = false) : t.locate (child dir name) = .ok q ↔
      obstacle? (child dir name) = none ∧ t.walk place (segments name) = .ok q := by
  rw [locate_eq_ok_iff, isAbsolute_child hrel, segments_child hrel, walk_append,
    (locate_eq_ok_iff.mp hl).2]
  rfl

theorem walk_name (hdir : t.entry? place = some .dir) (hs : s ≠ "..")
    (hlength : (Text.nameBytes s).length ≤ maxName) :
    t.walk place [s] = .ok (place ++ [Text.systemName s]) := by
  simp only [walk, hdir, if_neg hs, if_neg (Nat.not_lt.mpr hlength)]

theorem succeeds_makeDir_iff : Succeeds (t.makeDir path) ↔
    ∃ q, t.locate path = .ok q ∧ (t.entry? q = some .dir ∨ t.entry? q = none) := by
  unfold makeDir
  cases t.locate path with
  | error o => simp [not_succeeds_error]
  | ok place =>
    cases hentry : t.entry? place with
    | none => simp [succeeds_ok, hentry]
    | some e => cases e <;> simp [succeeds_ok, not_succeeds_error, hentry]

/-- A name below a directory that is not taken can be that of a directory. -/
theorem succeeds_makeDir_child_iff (hl : t.locate dir = .ok place)
    (hdir : t.entry? place = some .dir) (hs : Path.IsName s)
    (hlength : (Text.nameBytes s).length ≤ maxName)
    (hnone : t.entry? (place ++ [Text.systemName s]) ≠ some .dir) :
    Succeeds (t.makeDir (child dir s)) ↔
      obstacle? (child dir s) = none ∧ t.entry? (place ++ [Text.systemName s]) = none := by
  have hwalk := walk_name hdir hs.ne_up hlength
  have hlocate : ∀ q, t.locate (child dir s) = .ok q ↔
      obstacle? (child dir s) = none ∧ q = place ++ [Text.systemName s] := by
    intro q
    rw [locate_child_eq_ok_iff hl (Path.isAbsolute_eq_false_of_slash_not_mem hs.slash_not_mem),
      Path.segments_of_isSegment hs.toIsSegment, hwalk, Except.ok.injEq, eq_comm (b := q)]
  simp only [succeeds_makeDir_iff, hlocate]
  constructor
  · rintro ⟨_, ⟨hpath, rfl⟩, hentry⟩
    exact ⟨hpath, hentry.resolve_left hnone⟩
  · rintro ⟨hpath, hentry⟩
    exact ⟨_, ⟨hpath, rfl⟩, Or.inr hentry⟩

/-- The path leads to a directory with none but files in it. -/
structure IsFlat (t : FileTree) (dir : String) (place : List String) : Prop where
  locate : t.locate dir = .ok place
  isDir : t.entry? place = some .dir
  files : ∀ s, t.entry? (place ++ [s]) ≠ some .dir

/-- A file of this name is one of the directory, and the system takes its name and its path. -/
structure Fits (dir name : String) : Prop where
  path : obstacle? (child dir name) = none
  single : ∃ s, segments name = [s] ∧ (Text.nameBytes s).length ≤ maxName

theorem isDir_of_write_isDir (h : t.write path bytes = .ok t') (hq : t'.entry? q = some .dir) :
    t.entry? q = some .dir := by
  by_cases hplace : q = placeOf t.here path
  · rw [hplace, entry?_of_write h] at hq
    cases hq
  · rwa [← entry?_of_write_of_ne h hplace]

theorem IsFlat.write (h : t.IsFlat dir place) (hw : t.write path bytes = .ok t') :
    t'.IsFlat dir place where
  locate := locate_of_isDir (here_of_write hw) (fun _ => isDir_of_write hw) h.locate
  isDir := isDir_of_write hw h.isDir
  files s hs := h.files s (isDir_of_write_isDir hw hs)

theorem IsFlat.locate_child (h : t.IsFlat dir place) (hrel : Path.isAbsolute name = false)
    (hpath : obstacle? (child dir name) = none) (hname : segments name = [s])
    (hs : s ≠ "..") (hlength : (Text.nameBytes s).length ≤ maxName) :
    t.locate (child dir name) = .ok (place ++ [Text.systemName s]) := by
  rw [locate_child_eq_ok_iff h.locate hrel, hname]
  exact ⟨hpath, walk_name h.isDir hs hlength⟩

/-- A directory that has just been made is flat where nothing below it was one. -/
theorem isFlat_of_makeDir (hm : t.makeDir path = .ok t')
    (hfiles : ∀ s, t.entry? (placeOf t.here path ++ [s]) ≠ some .dir) :
    t'.IsFlat path (placeOf t.here path) where
  locate := locate_of_isDir (here_of_makeDir hm) (fun _ => isDir_of_makeDir hm)
    (locate_of_makeDir hm)
  isDir := entry?_of_makeDir hm
  files s hs := by
    apply hfiles s
    rwa [← entry?_of_makeDir_of_ne hm (by simp)]

/-- A file can be written to a flat directory just when it fits there. -/
theorem IsFlat.succeeds_write_iff (h : t.IsFlat dir place)
    (hrel : Path.isAbsolute name = false) (hname : segments name = s :: rest) (hs : s ≠ "..")
    (bytes : ByteArray) : Succeeds (t.write (child dir name) bytes) ↔ Fits dir name := by
  constructor
  · rintro ⟨t', hw⟩
    obtain ⟨hpath, hwalk⟩ := (locate_child_eq_ok_iff h.locate hrel).mp (locate_of_write hw)
    refine ⟨hpath, ?_⟩
    rw [hname, walk, h.isDir] at hwalk
    simp only [if_neg hs] at hwalk
    split at hwalk
    · cases hwalk
    · rename_i hlength
      cases rest with
      | nil => exact ⟨s, hname, Nat.not_lt.mp hlength⟩
      | cons s' rest =>
        -- The first of several segments would have to be a directory.
        rw [walk] at hwalk
        split at hwalk
        · cases hwalk
        · cases hwalk
        · rename_i hdir
          exact absurd hdir (h.files _)
  · rintro ⟨hpath, s', hsingle, hlength⟩
    rw [hname] at hsingle
    cases hsingle
    exact ⟨_, write_of_locate (h.locate_child hrel hpath hname hs hlength) (h.files _) bytes⟩

end VueWrap.FileTree
