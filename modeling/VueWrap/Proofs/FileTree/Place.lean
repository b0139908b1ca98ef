import Mathlib.Tactic.ByContra
import VueWrap.FileTree
import VueWrap.Proofs.Assoc
import VueWrap.Proofs.Outcome
import VueWrap.Proofs.Path.Relative

/-! # The place that an operation changes

A path leads to one place, which is found lexically from the working directory.
Writing a file and making a directory change the entry of that place and of no
other; a directory stays a directory.
-/

namespace VueWrap

namespace FileTree

variable {t t' : FileTree} {place q : List String} {path : String} {bytes : ByteArray}

theorem samePlace_iff (p q : List String) : samePlace p q = true ↔ p = q := by
  simp [samePlace]

@[simp] theorem entry?_root (t : FileTree) : t.entry? [] = some .dir := rfl

@[simp] theorem here_set (t : FileTree) (place : List String) (e : Entry) :
    (t.set place e).here = t.here := rfl

theorem entry?_set_self (h : place ≠ []) (t : FileTree) (e : Entry) :
    entry? (t.set place e) place = some e := by
  unfold FileTree.entry?
  rw [if_neg h]
  exact Assoc.get?_put_self ((samePlace_iff _ _).mpr rfl) _ _

theorem entry?_set_of_ne (h : q ≠ place) (t : FileTree) (e : Entry) :
    entry? (t.set place e) q = t.entry? q := by
  unfold FileTree.entry?
  simp only [set, Assoc.get?_put_of_ne samePlace_iff h]

theorem eq_of_walk_eq_ok {segments : List String} (h : t.walk place segments = .ok q) :
    q = (segments.foldl step place.reverse).reverse := by
  induction segments generalizing place with
  | nil => simpa [walk] using h.symm
  | cons s rest ih =>
    unfold walk at h
    split at h
    · cases h
    · cases h
    · split at h
      · rename_i hs
        rw [ih h, List.foldl_cons, step, if_pos hs, List.drop_one, List.tail_reverse]
      · rename_i hs
        split at h
        · cases h
        · rw [ih h, List.foldl_cons, step, if_neg hs, List.reverse_append]
          rfl

/-- A path is followed where it can be handed to the system. -/
theorem locate_eq_ok_iff : t.locate path = .ok place ↔ obstacle? path = none ∧
    t.walk (if Path.isAbsolute path then [] else t.here) (Path.segments path) = .ok place := by
  unfold locate
  split
  · rename_i o ho
    simp [ho]
  · rename_i hnone
    rw [mapError_eq_ok_iff]
    exact (and_iff_right hnone).symm

theorem obstacle?_of_locate {o : Obstacle} (h : t.locate path = .error o)
    (ho : ∀ cause, o ≠ .refused cause) : obstacle? path = some o := by
  unfold locate at h
  split at h
  · rename_i hpath
    rw [hpath, Except.error.inj h]
  · cases hwalk : t.walk (if Path.isAbsolute path then [] else t.here) (Path.segments path) with
    | ok place =>
      rw [hwalk] at h
      cases h
    | error cause =>
      rw [hwalk] at h
      exact absurd (Except.error.inj h).symm (ho cause)

theorem eq_placeOf_of_locate (h : t.locate path = .ok place) : place = placeOf t.here path := by
  rw [eq_of_walk_eq_ok (locate_eq_ok_iff.mp h).2, placeOf]
  split <;> rfl

theorem placeOf_tidy (here : List String) (path : String) :
    placeOf here (Path.tidy path) = placeOf here path := by
  rw [placeOf, placeOf, Path.segments_tidy, Path.isAbsolute_tidy]

/-- A name behind a directory names an entry of it. -/
theorem placeOf_join_name {name : String} (h : Path.IsName name) (here : List String)
    (dir : String) :
    placeOf here (Path.join dir name) = placeOf here dir ++ [Text.systemName name] := by
  have hrel := Path.isAbsolute_eq_false_of_slash_not_mem h.slash_not_mem
  simp only [placeOf, Path.isAbsolute_join hrel, Path.segments_join hrel,
    Path.segments_of_isSegment h.toIsSegment, List.foldl_append, List.foldl_cons, List.foldl_nil]
  rw [step, if_neg h.ne_up, List.reverse_cons]

theorem placeOf_child_name {name : String} (h : Path.IsName name) (here : List String)
    (dir : String) :
    placeOf here (Path.child dir name) = placeOf here dir ++ [Text.systemName name] := by
  have hrel := Path.isAbsolute_eq_false_of_slash_not_mem h.slash_not_mem
  rw [Path.child, if_neg (by simp [hrel]), placeOf_tidy, placeOf_join_name h, placeOf_tidy]

theorem write_eq_ok (h : t.write path bytes = .ok t') :
    t.entry? (placeOf t.here path) ≠ some .dir ∧
      t' = t.set (placeOf t.here path) (.file bytes) := by
  unfold write at h
  split at h
  · cases h
  · rename_i place hl
    rw [← eq_placeOf_of_locate hl]
    split at h
    · cases h
    · rename_i hd
      exact ⟨hd, (Except.ok.inj h).symm⟩

theorem makeDir_eq_ok (h : t.makeDir path = .ok t') :
    (t.entry? (placeOf t.here path) = some .dir ∧ t' = t) ∨
      (t.entry? (placeOf t.here path) = none ∧
        t' = t.set (placeOf t.here path) .dir) := by
  unfold makeDir at h
  split at h
  · cases h
  · rename_i place hl
    rw [← eq_placeOf_of_locate hl]
    split at h
    · rename_i hd
      exact Or.inl ⟨hd, (Except.ok.inj h).symm⟩
    · cases h
    · rename_i hn
      exact Or.inr ⟨hn, (Except.ok.inj h).symm⟩

/-- What is no refusal keeps a file from being written to any tree. -/
theorem obstacle?_of_write {o : Obstacle} (h : t.write path bytes = .error o)
    (ho : ∀ cause, o ≠ .refused cause) : obstacle? path = some o := by
  unfold write at h
  split at h
  · rename_i hl
    exact Except.error.inj h ▸ obstacle?_of_locate hl (Except.error.inj h ▸ ho)
  · split at h
    · exact absurd (Except.error.inj h).symm (ho _)
    · cases h

theorem obstacle?_of_makeDir {o : Obstacle} (h : t.makeDir path = .error o)
    (ho : ∀ cause, o ≠ .refused cause) : obstacle? path = some o := by
  unfold makeDir at h
  split at h
  · rename_i hl
    exact Except.error.inj h ▸ obstacle?_of_locate hl (Except.error.inj h ▸ ho)
  · split at h
    · cases h
    · exact absurd (Except.error.inj h).symm (ho _)
    · cases h

theorem here_of_write (h : t.write path bytes = .ok t') : t'.here = t.here := by
  rw [(write_eq_ok h).2, here_set]

theorem here_of_makeDir (h : t.makeDir path = .ok t') : t'.here = t.here := by
  rcases makeDir_eq_ok h with ⟨_, rfl⟩ | ⟨_, rfl⟩
  · rfl
  · rw [here_set]

/-- A written file holds exactly the bytes that are written. -/
theorem entry?_of_write (h : t.write path bytes = .ok t') :
    t'.entry? (placeOf t.here path) = some (.file bytes) := by
  obtain ⟨hd, rfl⟩ := write_eq_ok h
  refine entry?_set_self (fun hroot => hd ?_) _ _
  rw [hroot, entry?_root]

theorem entry?_of_makeDir (h : t.makeDir path = .ok t') :
    t'.entry? (placeOf t.here path) = some .dir := by
  rcases makeDir_eq_ok h with ⟨hd, rfl⟩ | ⟨hn, rfl⟩
  · exact hd
  · refine entry?_set_self (fun hroot => ?_) _ _
    rw [hroot, entry?_root] at hn
    cases hn

theorem entry?_of_write_of_ne (h : t.write path bytes = .ok t')
    (hne : q ≠ placeOf t.here path) : t'.entry? q = t.entry? q := by
  rw [(write_eq_ok h).2, entry?_set_of_ne hne]

theorem entry?_of_makeDir_of_ne (h : t.makeDir path = .ok t')
    (hne : q ≠ placeOf t.here path) : t'.entry? q = t.entry? q := by
  rcases makeDir_eq_ok h with ⟨_, rfl⟩ | ⟨_, rfl⟩
  · rfl
  · exact entry?_set_of_ne hne _ _

/-- Writing a file changes the entry of no other place. -/
theorem eq_placeOf_of_write (h : t.write path bytes = .ok t') (hne : t'.entry? q ≠ t.entry? q) :
    q = placeOf t.here path := by
  by_contra hplace
  exact hne (entry?_of_write_of_ne h hplace)

theorem eq_placeOf_of_makeDir (h : t.makeDir path = .ok t') (hne : t'.entry? q ≠ t.entry? q) :
    q = placeOf t.here path := by
  by_contra hplace
  exact hne (entry?_of_makeDir_of_ne h hplace)

theorem isDir_of_write (h : t.write path bytes = .ok t') (hq : t.entry? q = some .dir) :
    t'.entry? q = some .dir := by
  have hne : q ≠ placeOf t.here path := by
    rintro rfl
    exact (write_eq_ok h).1 hq
  rw [entry?_of_write_of_ne h hne, hq]

theorem isDir_of_makeDir (h : t.makeDir path = .ok t') (hq : t.entry? q = some .dir) :
    t'.entry? q = some .dir := by
  by_cases hne : q = placeOf t.here path
  · rw [hne, entry?_of_makeDir h]
  · rw [entry?_of_makeDir_of_ne h hne, hq]

variable {text : List Char}

theorem writeText_of_bytes? (hb : Text.bytes? text = some bytes) : t.writeText path text =
    match t.write path bytes with
    | .error o => (t, some o)
    | .ok t' => (t', none) := by
  rw [writeText, hb]
  rfl

theorem writeText_of_bytes?_eq_none (hb : Text.bytes? text = none) : t.writeText path text =
    match t.write path .empty with
    | .error o => (t, some o)
    | .ok t' => (t', some .noBytes) := by
  rw [writeText, hb]
  rfl

theorem writeText_eq_none (h : t.writeText path text = (t', none)) :
    ∃ bytes, Text.bytes? text = some bytes ∧ t.write path bytes = .ok t' := by
  cases hb : Text.bytes? text with
  | none =>
    rw [writeText_of_bytes?_eq_none hb] at h
    split at h <;> cases h
  | some bytes =>
    rw [writeText_of_bytes? hb] at h
    split at h
    · cases h
    · rename_i hw
      cases h
      exact ⟨bytes, rfl, hw⟩

end FileTree

end VueWrap
