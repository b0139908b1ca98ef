import VueWrap.Proofs.FileTree.ReadBack
import VueWrap.Proofs.Settings.Fields

/-! # Settings that are saved and loaded again

Settings without floats that have been saved are loaded as they were just when no
further setting has the key of a setting. What keeps them from being saved, where
the system does not, is an integer with too many digits or half of a surrogate
pair.
-/

namespace VueWrap

/-- A file can be written at the path, whatever it is to hold. -/
def FileTree.CanWrite (t : FileTree) (path : String) : Prop :=
  ∀ bytes, Succeeds (t.write path bytes)

namespace Settings

variable {s : Settings} {fs : List (String × Value)} {t t' : FileTree} {path : String}
  {cs : List Char} {bytes : ByteArray}

/-- No value of the settings, whose further ones are `fs`, has a float or a key twice. -/
structure Plain (s : Settings) (fs : List (String × Value)) : Prop where
  own : ∀ n, (s.get n).Plain
  further : s.further = .plain (.obj fs)
  fields : (Value.obj fs).Plain

theorem Plain.nodup (h : s.Plain fs) : (fs.map (·.1)).Nodup := by
  cases h.fields with
  | obj hkeys => exact hkeys

theorem Plain.mem (h : s.Plain fs) : ∀ f ∈ fs, f.2.Plain := by
  cases h.fields with
  | obj _ hall => exact hall

theorem Plain.saved (h : s.Plain fs) : (Value.obj (s.saved fs)).Plain := by
  refine .obj (s.nodup_saved fs) fun f hf => ?_
  rcases Assoc.mem_update_of_keys Assoc.sameText_iff hf with hf | hf
  · obtain ⟨n, -, rfl⟩ := List.mem_map.mp hf
    exact h.own n
  · exact h.mem f hf

theorem Plain.same_self (h : s.Plain fs) : s.Same s where
  own n := (h.own n).same_self
  further := by
    rw [h.further]
    exact .plain h.fields.same_self

/-- The file has the fields as a text that is read as the fields, and the settings are loaded from
it as they were just when no further setting has the key of a setting. -/
structure Restores (s : Settings) (fs : List (String × Value)) (t' : FileTree) (path : String) :
    Prop where
  file : ∃ bytes, Text.bytes? (Json.printBlock 2 (.obj (s.saved fs))) = some bytes ∧
    t'.read (Path.tidy path) = .ok bytes
  text : Json.read (Json.writeBlock 2 (.obj (s.saved fs))) = .ok (.obj (s.saved fs))
  same_iff : Gives (load t' .null (.str path)) s.Same ↔ ∀ f ∈ fs, isKnown f.1 = false
  eq : (∀ f ∈ fs, isKnown f.1 = false) → load t' .null (.str path) = .ok s

theorem readFile_eq_ok (hjson : Text.lower (Path.extension (Path.tidy path)) = ".json")
    (hbytes : Text.bytes? cs = some bytes) (hwrite : t.write (Path.tidy path) bytes = .ok t')
    (htext : '\r' ∉ cs) (hread : Json.read (String.ofList cs) = .ok (.obj fs)) :
    readFile t' path = .ok fs := by
  unfold readFile
  simp only [FileTree.has_of_write hwrite, hjson, FileTree.read_of_write hwrite,
    FileTree.textOf?_of_bytes? hbytes htext, hread, ne_eq, not_true, if_false]

/-- Fields that have been written are read from the file. -/
theorem readFile_of_writeBlock (hjson : Text.lower (Path.extension (Path.tidy path)) = ".json")
    (hplain : (Value.obj fs).Plain) (hwritable : Json.isWritable (.obj fs) = true)
    (hbytes : Text.bytes? (Json.printBlock 2 (.obj fs)) = some bytes)
    (hwrite : t.write (Path.tidy path) bytes = .ok t') : readFile t' path = .ok fs :=
  readFile_eq_ok hjson hbytes hwrite
    (Json.return_not_mem_printAt (Json.return_not_mem_break_spaced 2) hplain 0)
    (Json.read_writeIn (Json.blank_spaced 2) hplain hwritable)

theorem load_eq_ofFields (hjson : Text.lower (Path.extension (Path.tidy path)) = ".json")
    (hread : readFile t' path = .ok fs) : load t' .null (.str path) = ofFields fs := by
  have hpath : Value.isEmpty (.str path) = false := by
    have hne : path ≠ "" := by
      rintro rfl
      revert hjson
      decide
    simpa [Value.isEmpty] using hne
  simp only [load, hpath, hread, merge, overriding]
  rfl

theorem restores_of_write (h : s.Plain fs)
    (hjson : Text.lower (Path.extension (Path.tidy path)) = ".json")
    (hwritable : Json.isWritable (.obj (s.saved fs)) = true)
    (hbytes : Text.bytes? (Json.printBlock 2 (.obj (s.saved fs))) = some bytes)
    (hwrite : t.write (Path.tidy path) bytes = .ok t') : s.Restores fs t' path := by
  have htext : Json.read (Json.writeBlock 2 (.obj (s.saved fs))) = .ok (.obj (s.saved fs)) :=
    Json.read_writeIn (Json.blank_spaced 2) h.saved hwritable
  have hload :=
    load_eq_ofFields hjson (readFile_of_writeBlock hjson h.saved hwritable hbytes hwrite)
  have heq : (∀ f ∈ fs, isKnown f.1 = false) → load t' .null (.str path) = .ok s :=
    fun hnew => hload.trans (ofFields_saved h.further h.nodup hnew)
  refine ⟨⟨bytes, hbytes, FileTree.read_of_write hwrite⟩, htext,
    ⟨?_, fun hnew => ⟨s, heq hnew, h.same_self⟩⟩, heq⟩
  rintro ⟨s', hs', hsame⟩ f hf
  cases hknown : isKnown f.1 with
  | false => rfl
  | true =>
    have hfurther := hsame.further
    rw [h.further] at hfurther
    rw [hload] at hs'
    exact absurd hfurther (not_same_of_isKnown h.nodup hf hknown hs')

theorem all_isWritable_textKeys (fs : List (String × Value)) :
    ((textKeys fs).all fun e => Json.isWritable e.1 && Json.isWritable e.2) =
      Json.isWritable (.obj fs) := by
  rw [Json.isWritable]
  induction fs with
  | nil => rfl
  | cons f fs ih =>
    rw [textKeys, List.map_cons, List.all_cons, ← textKeys, ih, Json.fieldsWritable]
    rfl

/-- Where the system lets settings without floats be saved, they are restored by what is loaded, or
they have no text or no bytes and are not saved. -/
theorem save_restores (h : s.Plain fs)
    (hjson : Text.lower (Path.extension (Path.tidy path)) = ".json")
    (hcan : t.CanWrite (Path.tidy path)) :
    (Json.isWritable (.obj (s.saved fs)) = true →
      (Text.bytes? (Json.printBlock 2 (.obj (s.saved fs)))).isSome →
        ∃ t', s.save t (.str path) = .ok t' ∧ s.Restores fs t' path) ∧
    (Json.isWritable (.obj (s.saved fs)) = false →
      (Text.bytes? (Json.printBlock 2 (.obj (s.saved fs)))).isSome →
        s.save t (.str path) = .error .badContent) ∧
    (Text.bytes? (Json.printBlock 2 (.obj (s.saved fs))) = none →
      s.save t (.str path) = .error .unencodable) := by
  cases hbytes : Text.bytes? (Json.printBlock 2 (.obj (s.saved fs))) with
  | none =>
    obtain ⟨t', hwrite⟩ := hcan .empty
    refine ⟨nofun, nofun, fun _ => ?_⟩
    simp only [save, entries_eq h.further, bind, Except.bind, textOf_textKeys,
      FileTree.writeText_of_bytes?_eq_none hbytes, hwrite, Failure.ofObstacle]
  | some bytes =>
    obtain ⟨t', hwrite⟩ := hcan bytes
    have hsave : s.save t (.str path) =
        if Json.isWritable (.obj (s.saved fs)) then .ok t' else .error .badContent := by
      simp only [save, entries_eq h.further, bind, Except.bind, textOf_textKeys,
        FileTree.writeText_of_bytes? hbytes, hwrite, all_isWritable_textKeys]
    rw [hsave]
    refine ⟨fun hwritable _ => ?_, fun hlong _ => ?_, nofun⟩
    · exact ⟨t', if_pos hwritable, restores_of_write h hjson hwritable hbytes hwrite⟩
    · exact if_neg (Bool.eq_false_iff.mp hlong)

def themeFields : List (String × Value) :=
  [("theme", .str "dark\n"), ("levels", .arr [.int (-2), .obj [("custom", .null)]])]

theorem plain_themeFields : (Value.obj themeFields).Plain := by
  refine .obj (by decide) (List.forall_mem_cons.mpr ⟨.str _, List.forall_mem_singleton.mpr ?_⟩)
  refine .arr (List.forall_mem_cons.mpr ⟨.int _, List.forall_mem_singleton.mpr ?_⟩)
  exact .obj (by decide) (List.forall_mem_singleton.mpr .null)

theorem save_restores_themeFields : ∃ t',
    save { further := .plain (.obj themeFields) } ⟨[], []⟩ (.str "./theme.JSON") = .ok t' ∧
      load t' .null (.str "./theme.JSON") = .ok { further := .plain (.obj themeFields) } := by
  have hplain : Plain { further := .plain (.obj themeFields) } themeFields :=
    ⟨fun n => by cases n <;> constructor, rfl, plain_themeFields⟩
  obtain ⟨t', hsave, hrestores⟩ := (@save_restores _ _ ⟨[], []⟩ "./theme.JSON" hplain
    (by decide +kernel) fun bytes => ⟨_, rfl⟩).1 (by decide +kernel) (by decide +kernel)
  exact ⟨t', hsave, hrestores.eq (by decide)⟩

end Settings

end VueWrap
