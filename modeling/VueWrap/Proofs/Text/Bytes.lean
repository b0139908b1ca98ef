import VueWrap.Text.Bytes

/-! # Points and bytes are read back

The points of a text are found again in the characters that they are kept as, so
a text with bytes is the one of its characters, and texts without marks are told
apart by the bytes of their names. A name and the text for all names with its
bytes have the same bytes.
-/

namespace VueWrap.Text

variable {c : Char} {cs ds : List Char} {s s' : String} {n : Nat} {bs : List UInt8}

theorem points_mark_cons (d : Char) (cs : List Char) :
    points (halfMark :: d :: cs) =
      (if d = halfMark then .char d else .half (d.toNat - 0x800)) :: points cs := by
  rw [points, pointsAfter, if_pos rfl, pointsAfter, points]

theorem points_cons_of_ne (h : c ≠ halfMark) (cs : List Char) :
    points (c :: cs) = .char c :: points cs := by
  rw [points, pointsAfter, if_neg h, points]

theorem points_char (c : Char) (cs : List Char) :
    points ((Point.char c).chars ++ cs) = .char c :: points cs := by
  by_cases h : c = halfMark
  · rw [Point.chars, if_pos h, List.cons_append, List.singleton_append, points_mark_cons,
      if_pos rfl, h]
  · rw [Point.chars, if_neg h, List.singleton_append, points_cons_of_ne h]

theorem points_half (hlow : 0xd800 ≤ n) (hhigh : n ≤ 0xdfff) (cs : List Char) :
    points ((Point.half n).chars ++ cs) = .half n :: points cs := by
  have hvalid : (n + 0x800).isValidChar := Or.inr ⟨by omega, by omega⟩
  have hnumber : (Char.ofNat (n + 0x800)).toNat = n + 0x800 := by
    rw [Char.ofNat, dif_pos hvalid]
    rfl
  have hne : Char.ofNat (n + 0x800) ≠ halfMark := by
    intro h
    have hmark : halfMark.toNat = 0x10ffff := by decide
    rw [h, hmark] at hnumber
    omega
  rw [Point.chars, List.cons_append, List.singleton_append, points_mark_cons, if_neg hne, hnumber,
    Nat.add_sub_cancel]

/-- The points of a text that is kept for characters are the characters. -/
theorem points_flatMap_chars (cs rest : List Char) :
    points (cs.flatMap (fun c => (Point.char c).chars) ++ rest) =
      cs.map Point.char ++ points rest := by
  induction cs with
  | nil => rfl
  | cons c cs ih => rw [List.flatMap_cons, List.append_assoc, points_char, ih, List.map_cons,
      List.cons_append]

theorem eq_map_char_of_chars? {ps : List Point} (h : chars? ps = some ds) :
    ps = ds.map Point.char := by
  induction ps generalizing ds with
  | nil =>
    cases h
    rfl
  | cons p ps ih =>
    cases p with
    | half n => cases h
    | char c =>
      obtain ⟨ds, hds, rfl⟩ := Option.map_eq_some_iff.mp h
      rw [ih hds, List.map_cons]

theorem eq_flatMap_chars_of_pointsAfter {marked : Bool}
    (h : pointsAfter marked cs = ds.map Point.char) :
    (if marked then halfMark :: cs else cs) = ds.flatMap fun c => (Point.char c).chars := by
  induction cs generalizing marked ds with
  | nil =>
    cases marked with
    | false =>
      obtain rfl := List.map_eq_nil_iff.mp h.symm
      rfl
    | true =>
      obtain ⟨_, _, -, hx, -⟩ := List.map_eq_cons_iff.mp h.symm
      cases hx
  | cons c cs ih =>
    by_cases hc : c = halfMark
    · subst hc
      cases marked with
      | false =>
        rw [pointsAfter, if_pos rfl] at h
        exact ih h
      | true =>
        rw [pointsAfter, if_pos rfl] at h
        obtain ⟨_, _, rfl, hx, hxs⟩ := List.map_eq_cons_iff.mp h.symm
        cases hx
        rw [List.flatMap_cons, ← ih hxs.symm]
        simp [Point.chars]
    · cases marked with
      | false =>
        rw [pointsAfter, if_neg hc] at h
        obtain ⟨_, _, rfl, hx, hxs⟩ := List.map_eq_cons_iff.mp h.symm
        cases hx
        rw [List.flatMap_cons, ← ih hxs.symm]
        simp [Point.chars, hc]
      | true =>
        rw [pointsAfter, if_neg hc] at h
        obtain ⟨_, _, -, hx, -⟩ := List.map_eq_cons_iff.mp h.symm
        cases hx

/-- Where all points are characters, the text is kept for them. -/
theorem eq_flatMap_chars_of_points (h : points cs = ds.map Point.char) :
    cs = ds.flatMap fun c => (Point.char c).chars := by
  have h := eq_flatMap_chars_of_pointsAfter h
  rwa [if_neg Bool.false_ne_true] at h

/-- A text with bytes is the one of its characters, and has theirs. -/
theorem eq_flatMap_chars_of_bytes? {bytes : ByteArray} (h : bytes? cs = some bytes) :
    ∃ ds, cs = ds.flatMap (fun c => (Point.char c).chars) ∧
      bytes = (String.ofList ds).toUTF8 := by
  obtain ⟨ds, hds, rfl⟩ := Option.map_eq_some_iff.mp h
  exact ⟨ds, eq_flatMap_chars_of_points (eq_map_char_of_chars? hds), rfl⟩

theorem points_of_mark_not_mem (h : halfMark ∉ cs) : points cs = cs.map Point.char := by
  induction cs with
  | nil => rfl
  | cons c cs ih =>
    rw [List.mem_cons, not_or] at h
    rw [points_cons_of_ne (Ne.symm h.1), ih h.2, List.map_cons]

theorem chars?_map_char (cs : List Char) : chars? (cs.map Point.char) = some cs := by
  induction cs with
  | nil => rfl
  | cons c cs ih => rw [List.map_cons, chars?, ih, Option.map_some]

/-- A text without marks has the bytes of its characters. -/
theorem bytes?_of_mark_not_mem (h : halfMark ∉ cs) :
    bytes? cs = some (String.ofList cs).toUTF8 := by
  rw [bytes?, points_of_mark_not_mem h, chars?_map_char, Option.map_some]

theorem nameBytes_append (h : halfMark ∉ s.toList) (s' : String) :
    nameBytes (s ++ s') = nameBytes s ++ nameBytes s' := by
  have hpoints := points_of_mark_not_mem h
  have happend := points_flatMap_chars s.toList s'.toList
  rw [← eq_flatMap_chars_of_points hpoints, ← hpoints] at happend
  rw [nameBytes, String.toList_append, happend, List.flatMap_append]
  rfl

theorem flatMap_nameBytes_char (cs : List Char) :
    (cs.map Point.char).flatMap Point.nameBytes = cs.flatMap String.utf8EncodeChar := by
  rw [List.flatMap_map]
  rfl

/-- Texts without marks are told apart by the bytes of their names. -/
theorem eq_of_nameBytes (h : halfMark ∉ s.toList) (h' : halfMark ∉ s'.toList)
    (heq : nameBytes s = nameBytes s') : s = s' := by
  rw [nameBytes, nameBytes, points_of_mark_not_mem h, points_of_mark_not_mem h',
    flatMap_nameBytes_char, flatMap_nameBytes_char] at heq
  apply String.toByteArray_inj.mp
  rw [← String.utf8Encode_toList, ← String.utf8Encode_toList, List.utf8Encode, heq,
    List.utf8Encode]

theorem toByteArray_of_fromUTF8? {bytes : ByteArray} (h : String.fromUTF8? bytes = some s) :
    s.toByteArray = bytes := by
  unfold String.fromUTF8? at h
  split at h
  · cases h
    rfl
  · cases h

theorem front?_eq_some {n : Nat} (h : front? bs = some (cs, n)) :
    0 < n ∧ cs.flatMap String.utf8EncodeChar = bs.take n := by
  obtain ⟨m, hm, hfront⟩ := List.exists_of_findSome?_eq_some h
  obtain ⟨s, hs, heq⟩ := Option.map_eq_some_iff.mp hfront
  cases heq
  constructor
  · simp only [List.mem_cons, List.not_mem_nil, or_false] at hm
    omega
  · apply List.toByteArray_inj.mp
    rw [← toByteArray_of_fromUTF8? hs, ← String.utf8Encode_toList, List.utf8Encode]

/-- The bytes of what bytes are kept as are the bytes. -/
theorem nameBytes_ofNameBytes (taken : Nat) (bs : List UInt8) :
    (points (ofNameBytes taken bs)).flatMap Point.nameBytes = bs.drop taken := by
  induction bs generalizing taken with
  | nil => cases taken <;> rfl
  | cons b bs ih =>
    cases taken with
    | succ taken =>
      rw [ofNameBytes, ih, List.drop_succ_cons]
    | zero =>
      rw [ofNameBytes]
      split
      · rename_i cs n hfront
        obtain ⟨hn, hcs⟩ := front?_eq_some hfront
        obtain ⟨n, rfl⟩ := Nat.exists_eq_add_one.mpr hn
        rw [points_flatMap_chars, List.flatMap_append, flatMap_nameBytes_char, hcs, ih,
          Nat.add_sub_cancel, List.take_succ_cons, List.cons_append, List.take_append_drop,
          List.drop_zero]
      · have hb := b.toNat_lt
        have hbyte : UInt8.ofNat (0xdc00 + b.toNat) = b := by
          apply UInt8.toNat_inj.mp
          rw [UInt8.toNat_ofNat']
          omega
        rw [points_half (by omega) (by omega), List.flatMap_cons, ih, List.drop_zero,
          Point.nameBytes, hbyte, List.singleton_append, List.drop_zero]

/-- The text for all names with the bytes of a name has these bytes. -/
theorem nameBytes_systemName (s : String) : nameBytes (systemName s) = nameBytes s := by
  unfold systemName
  split
  · rw [nameBytes, String.toList_ofList, nameBytes_ofNameBytes, List.drop_zero]
  · rfl

end VueWrap.Text
