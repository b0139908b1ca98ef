import VueWrap.Proofs.FileTree.Place
import VueWrap.Proofs.Text.Bytes

/-! # Files are read back

A file that has been written is found under its path, since writing it makes no
difference to the directories on the way, and a text without carriage returns is
read as it has been written.
-/

namespace VueWrap.FileTree

variable {t t' : FileTree} {place q r : List String} {path : String} {bytes : ByteArray}
  {cs : List Char} {e : Entry}

theorem walk_set {segments : List String} (hq : t.entry? q ≠ some .dir)
    (h : t.walk place segments = .ok r) : walk (t.set q e) place segments = .ok r := by
  induction segments generalizing place with
  | nil => exact h
  | cons s rest ih =>
    rw [walk] at h ⊢
    cases hplace : t.entry? place with
    | none =>
      rw [hplace] at h
      cases h
    | some entry =>
      rw [hplace] at h
      cases entry with
      | file bytes => cases h
      | dir =>
        -- The walk only passes directories, and the entry is set where none is.
        have hne : place ≠ q := by
          rintro rfl
          exact hq hplace
        rw [entry?_set_of_ne hne, hplace]
        simp only at h ⊢
        split
        · rename_i hup
          rw [if_pos hup] at h
          exact ih h
        · rename_i hup
          rw [if_neg hup] at h
          split
          · rename_i hlong
            rw [if_pos hlong] at h
            cases h
          · rename_i hlong
            rw [if_neg hlong] at h
            exact ih h

theorem locate_set (hq : t.entry? q ≠ some .dir) (h : t.locate path = .ok r) :
    locate (t.set q e) path = .ok r := by
  rw [locate_eq_ok_iff] at h ⊢
  exact ⟨h.1, walk_set hq h.2⟩

theorem find_of_write (h : t.write path bytes = .ok t') : t'.find path = .ok (.file bytes) := by
  have hentry := entry?_of_write h
  obtain ⟨hdir, rfl⟩ := write_eq_ok h
  cases hlocate : t.locate path with
  | error cause =>
    rw [write, hlocate] at h
    cases h
  | ok place =>
    have hplace := eq_placeOf_of_locate hlocate
    rw [← hplace] at hdir hentry ⊢
    rw [find, locate_set hdir hlocate]
    simp only [hentry]

theorem read_of_write (h : t.write path bytes = .ok t') : t'.read path = .ok bytes := by
  rw [read, find_of_write h]

theorem has_of_write (h : t.write path bytes = .ok t') : t'.has path = .ok true := by
  rw [has, probe, find_of_write h]

theorem normalLines_eq_self (h : '\r' ∉ cs) : normalLines cs = cs := by
  induction cs with
  | nil => rfl
  | cons c cs ih =>
    rw [List.mem_cons, not_or] at h
    have hne : c ≠ '\r' := fun hc => h.1 hc.symm
    simp [normalLines, hne, ih h.2]

/-- The bytes of a text without carriage returns are read as the text. -/
theorem textOf?_of_bytes? (hbytes : Text.bytes? cs = some bytes) (h : '\r' ∉ cs) :
    textOf? bytes = some (String.ofList cs) := by
  obtain ⟨ds, rfl, rfl⟩ := Text.eq_flatMap_chars_of_bytes? hbytes
  have hds : '\r' ∉ ds := by
    intro hmem
    apply h
    rw [List.mem_flatMap]
    exact ⟨'\r', hmem, by decide⟩
  have hread : String.fromUTF8? (String.ofList ds).toUTF8 = some (String.ofList ds) :=
    dif_pos (String.ofList ds).isValidUTF8
  rw [textOf?, hread, Option.map_some, String.toList_ofList, normalLines_eq_self hds]
  rfl

end VueWrap.FileTree
