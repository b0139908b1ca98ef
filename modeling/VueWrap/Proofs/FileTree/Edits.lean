import VueWrap.Proofs.FileTree.Place

/-! # Edits of a tree

Entries are set at places one after another; doing all of it a second time
changes nothing. A path that leads somewhere leads to the same place in every
tree that has at least the same directories, so what could be done to it there
can be done again as long as no directory has come into its way.
-/

namespace VueWrap

namespace FileTree

variable {t t' u : FileTree} {place q : List String} {path : String} {bytes : ByteArray}

def edit (t : FileTree) (es : List (List String × Entry)) : FileTree :=
  { t with entries := Assoc.update samePlace t.entries es }

theorem edit_cons (t : FileTree) (place : List String) (e : Entry)
    (es : List (List String × Entry)) : t.edit ((place, e) :: es) = (t.set place e).edit es := rfl

theorem edit_singleton (t : FileTree) (place : List String) (e : Entry) :
    t.edit [(place, e)] = t.set place e := rfl

theorem edit_append (t : FileTree) (es es' : List (List String × Entry)) :
    t.edit (es ++ es') = (t.edit es).edit es' := by
  simp only [edit, Assoc.update, List.foldl_append]

theorem edit_edit (t : FileTree) (es : List (List String × Entry)) :
    (t.edit es).edit es = t.edit es := by
  simp only [edit, Assoc.update_update samePlace_iff]

theorem set_eq_self {e : Entry} (hroot : place ≠ []) (h : t.entry? place = some e) :
    t.set place e = t := by
  unfold FileTree.entry? at h
  rw [if_neg hroot] at h
  rw [set, Assoc.put_eq_self h]

theorem walk_of_isDir (hdirs : ∀ q, t.entry? q = some .dir → u.entry? q = some .dir)
    {segments : List String} (h : t.walk place segments = .ok q) :
    u.walk place segments = .ok q := by
  induction segments generalizing place with
  | nil => exact h
  | cons s rest ih =>
    unfold walk at h ⊢
    split at h
    · cases h
    · cases h
    · rename_i hplace
      simp only [hdirs place hplace]
      split at h
      · rename_i hs
        rw [if_pos hs]
        exact ih h
      · rename_i hs
        split at h
        · cases h
        · rename_i hlength
          rw [if_neg hs, if_neg hlength]
          exact ih h

theorem locate_of_isDir (hhere : u.here = t.here)
    (hdirs : ∀ q, t.entry? q = some .dir → u.entry? q = some .dir)
    (h : t.locate path = .ok place) : u.locate path = .ok place := by
  rw [locate_eq_ok_iff] at h ⊢
  rw [hhere]
  exact ⟨h.1, walk_of_isDir hdirs h.2⟩

theorem locate_of_write (h : t.write path bytes = .ok t') :
    t.locate path = .ok (placeOf t.here path) := by
  unfold write at h
  split at h
  · cases h
  · rename_i place hl
    rw [hl, eq_placeOf_of_locate hl]

theorem locate_of_makeDir (h : t.makeDir path = .ok t') :
    t.locate path = .ok (placeOf t.here path) := by
  unfold makeDir at h
  split at h
  · cases h
  · rename_i place hl
    rw [hl, eq_placeOf_of_locate hl]

theorem write_of_locate (hl : t.locate path = .ok place) (hd : t.entry? place ≠ some .dir)
    (bytes : ByteArray) : t.write path bytes = .ok (t.set place (.file bytes)) := by
  unfold write
  rw [hl]
  dsimp only
  split
  · rename_i hdir
    exact absurd hdir hd
  · rfl

theorem makeDir_of_locate (hl : t.locate path = .ok place) (hd : t.entry? place = some .dir) :
    t.makeDir path = .ok t := by
  unfold makeDir
  rw [hl]
  dsimp only
  rw [hd]

theorem read_eq_ok (h : t.read path = .ok bytes) :
    t.locate path = .ok (placeOf t.here path) ∧
      t.entry? (placeOf t.here path) = some (.file bytes) := by
  unfold read find at h
  split at h
  · cases h
  · cases h
  · rename_i hfind
    obtain rfl := Except.ok.inj h
    split at hfind
    · cases hfind
    · rename_i place hl
      rw [← eq_placeOf_of_locate hl]
      split at hfind
      · cases hfind
      · rename_i hentry
        exact ⟨hl, Except.ok.inj hfind ▸ hentry⟩

theorem read_of_locate (hl : t.locate path = .ok place)
    (h : t.entry? place = some (.file bytes)) : t.read path = .ok bytes := by
  simp only [read, find, hl, h]

end FileTree

end VueWrap
