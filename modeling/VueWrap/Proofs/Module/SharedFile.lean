import VueWrap.Module.Render
import VueWrap.Proofs.Path.Relative
import VueWrap.Proofs.Text.Bytes

/-! # Files of shared exports

The file of a group of shared exports is named after its key. The key is a row of
names, so the file is one of the directory of the shared exports just when a
single name is left of the key and the extension adds no segment; otherwise it
is meant to be in a directory below it.
-/

namespace VueWrap.Module

open VueWrap.Path (IsName segments)

/-- A name without slashes, points and halves of surrogate pairs. -/
structure IsPlain (s : String) : Prop where
  ne_empty : s ≠ ""
  slash_not_mem : '/' ∉ s.toList
  point_not_mem : '.' ∉ s.toList
  mark_not_mem : Text.halfMark ∉ s.toList

instance (s : String) : Decidable (IsPlain s) :=
  decidable_of_iff (s ≠ "" ∧ '/' ∉ s.toList ∧ '.' ∉ s.toList ∧ Text.halfMark ∉ s.toList)
    ⟨fun ⟨hne, hslash, hpoint, hmark⟩ => ⟨hne, hslash, hpoint, hmark⟩,
      fun h => ⟨h.ne_empty, h.slash_not_mem, h.point_not_mem, h.mark_not_mem⟩⟩

/-- Names with slashes between them. -/
inductive IsKey : String → Prop
  | single {s : String} (h : IsPlain s) : IsKey s
  | cons {s key : String} (h : IsPlain s) (hkey : IsKey key) : IsKey (s ++ "/" ++ key)

variable {s s' key extension stem stem' : String} {rest rest' : List String}

theorem IsPlain.isSegment (h : IsPlain s) : Path.IsSegment s where
  ne_empty := h.ne_empty
  ne_point := by
    rintro rfl
    exact h.point_not_mem (by decide)
  slash_not_mem := h.slash_not_mem

theorem IsPlain.exists_head (h : IsPlain s) :
    ∃ c cs, s.toList = c :: cs ∧ c ≠ '/' ∧ c ≠ '.' := by
  obtain ⟨c, cs, hc⟩ := List.exists_cons_of_ne_nil (mt String.toList_eq_nil_iff.mp h.ne_empty)
  have hmem : c ∈ s.toList := by rw [hc]; exact List.mem_cons_self
  exact ⟨c, cs, hc, ne_of_mem_of_not_mem hmem h.slash_not_mem,
    ne_of_mem_of_not_mem hmem h.point_not_mem⟩

theorem IsPlain.exists_mem (h : IsPlain s) : ∃ c ∈ s.toList, c ≠ '.' := by
  obtain ⟨c, cs, hc, -, hne⟩ := h.exists_head
  exact ⟨c, by rw [hc]; exact List.mem_cons_self, hne⟩

theorem IsPlain.isName (h : IsPlain s) : IsName s := by
  rw [← String.ofList_toList (s := s)]
  exact Path.isName_ofList h.exists_mem h.slash_not_mem

theorem isPlain_sharedIndex : IsPlain sharedIndex := by decide

theorem IsKey.exists_head (h : IsKey key) : ∃ c cs, key.toList = c :: cs ∧ c ≠ '/' := by
  cases h with
  | single h =>
    obtain ⟨c, cs, hc, hne, -⟩ := h.exists_head
    exact ⟨c, cs, hc, hne⟩
  | @cons s key h _ =>
    obtain ⟨c, cs, hc, hne, -⟩ := h.exists_head
    exact ⟨c, cs ++ '/' :: key.toList, by simp [hc], hne⟩

theorem IsKey.isAbsolute_eq_false (h : IsKey stem) (extension : String) :
    Path.isAbsolute (stem ++ extension) = false := by
  obtain ⟨c, cs, hc, hne⟩ := h.exists_head
  apply Path.isAbsolute_eq_false_of_ne hne
  rw [String.toList_append, hc, List.cons_append]

/-- An extension lengthens a name up to its first slash. -/
theorem exists_segments_append (extension : String) : ∃ (front : List Char) (rest : List String),
    ∀ s, IsPlain s → segments (s ++ extension) = String.ofList (s.toList ++ front) :: rest ∧
      IsName (String.ofList (s.toList ++ front)) := by
  obtain ⟨front, later, hsplit⟩ :=
    List.exists_cons_of_ne_nil (Text.splitAt_ne_nil '/' extension.toList)
  refine ⟨front, (later.map String.ofList).filter fun s => !s.isEmpty && s != ".", ?_⟩
  intro s hs
  have hname : IsName (String.ofList (s.toList ++ front)) := by
    obtain ⟨c, hc, hne⟩ := hs.exists_mem
    apply Path.isName_ofList ⟨c, List.mem_append_left _ hc, hne⟩
    rw [List.mem_append, not_or]
    exact ⟨hs.slash_not_mem, Text.not_mem_of_mem_splitAt (hsplit ▸ List.mem_cons_self)⟩
  have hempty : (String.ofList (s.toList ++ front)).isEmpty = false := by
    simpa using hname.ne_empty
  constructor
  · rw [segments, String.toList_append, Text.splitAt_append_left hs.slash_not_mem hsplit,
      List.map_cons, List.filter_cons_of_pos (by rw [hempty, bne_iff_ne.mpr hname.ne_point]; rfl)]
  · exact hname

theorem segments_cons_append (h : IsPlain s) (key extension : String) :
    segments (s ++ "/" ++ key ++ extension) = s :: segments (key ++ extension) := by
  rw [String.append_assoc, Path.segments_append_slash, Path.segments_of_isSegment h.isSegment,
    List.singleton_append]

/-- The first segment of a file's name is a name. -/
theorem IsKey.exists_segments_eq (h : IsKey stem) (extension : String) :
    ∃ s rest, segments (stem ++ extension) = s :: rest ∧ IsName s := by
  cases h with
  | single h =>
    obtain ⟨front, rest, hall⟩ := exists_segments_append extension
    exact ⟨_, rest, hall _ h⟩
  | cons h _ => exact ⟨_, _, segments_cons_append h _ _, h.isName⟩

theorem IsKey.isPlain_of_segments (h : IsKey stem) (hs : segments (stem ++ extension) = [s]) :
    IsPlain stem := by
  cases h with
  | single h => exact h
  | cons h hkey =>
    -- What follows the slash has a segment of its own.
    obtain ⟨_, _, hsegments, -⟩ := hkey.exists_segments_eq extension
    rw [segments_cons_append h, hsegments] at hs
    cases hs

/-- Files of the directory itself have names of their own. -/
theorem eq_of_systemName_eq (h : IsKey stem) (h' : IsKey stem')
    (hs : segments (stem ++ extension) = [s]) (hs' : segments (stem' ++ extension) = [s'])
    (heq : Text.systemName s = Text.systemName s') : stem = stem' := by
  obtain ⟨front, rest, hall⟩ := exists_segments_append extension
  have hplain := h.isPlain_of_segments hs
  have hplain' := h'.isPlain_of_segments hs'
  have hbytes : ∀ {stem s}, IsPlain stem → segments (stem ++ extension) = [s] →
      Text.nameBytes s = Text.nameBytes stem ++ Text.nameBytes (String.ofList front) := by
    intro stem s hplain hs
    have hstem := (hall stem hplain).1
    rw [hs] at hstem
    rw [(List.cons.inj hstem).1, String.ofList_append, String.ofList_toList,
      Text.nameBytes_append hplain.mark_not_mem]
  apply Text.eq_of_nameBytes hplain.mark_not_mem hplain'.mark_not_mem
  have hfront : Text.nameBytes stem ++ Text.nameBytes (String.ofList front) =
      Text.nameBytes stem' ++ Text.nameBytes (String.ofList front) := by
    rw [← hbytes hplain hs, ← hbytes hplain' hs', ← Text.nameBytes_systemName s, heq,
      Text.nameBytes_systemName]
  exact List.append_cancel_right hfront

/-- The front of a key is its first name. -/
theorem IsKey.exists_of_front (h : IsKey key) (hs : IsPlain s)
    (hfront : (s ++ "/").toList <+: key.toList) :
    ∃ rest, IsKey rest ∧ key.toList = s.toList ++ '/' :: rest.toList := by
  obtain ⟨tail, htail⟩ := hfront
  have hkey : key.toList = s.toList ++ '/' :: tail := by
    rw [← htail]
    simp
  have hsplit : Text.splitAt '/' key.toList = s.toList :: Text.splitAt '/' tail := by
    rw [hkey, Text.splitAt_append_sep, Text.splitAt_of_not_mem hs.slash_not_mem,
      List.singleton_append]
  cases h with
  | single h =>
    rw [Text.splitAt_of_not_mem h.slash_not_mem] at hsplit
    exact absurd (List.cons.inj hsplit).2.symm (Text.splitAt_ne_nil _ _)
  | @cons s' rest h hrest =>
    have hparts : (s' ++ "/" ++ rest).toList = s'.toList ++ '/' :: rest.toList := by simp
    rw [hparts, Text.splitAt_append_sep, Text.splitAt_of_not_mem h.slash_not_mem,
      List.singleton_append] at hsplit
    refine ⟨rest, hrest, ?_⟩
    rw [hparts, (List.cons.inj hsplit).1]

/-- The file of a group is named after a row of names. -/
theorem exists_stem (h : IsKey key) (extension : String) :
    ∃ stem, IsKey stem ∧ sharedFile (.str key) (.str extension) = .ok (stem ++ extension) := by
  rw [sharedFile]
  simp only [Value.display_str]
  split
  · exact ⟨"index", .single (by decide), rfl⟩
  · refine ⟨_, ?_, rfl⟩
    split
    · rename_i hfront
      obtain ⟨rest, hrest, hkey⟩ :=
        h.exists_of_front isPlain_sharedIndex (List.isPrefixOf_iff_prefix.mp hfront)
      have hdrop : (sharedIndex.toList ++ '/' :: rest.toList).drop (sharedIndex.length + 1) =
          rest.toList := rfl
      rwa [hkey, hdrop, String.ofList_toList]
    · rwa [String.ofList_toList]

end VueWrap.Module
