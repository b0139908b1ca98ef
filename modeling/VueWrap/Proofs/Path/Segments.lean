import VueWrap.Path

/-! # Segments of joined paths

A slash separates the segments before it from those after it, so the segments of
two paths in a row are the segments of the one and then of the other, and a path
that is put together from segments has just these segments.
-/

namespace VueWrap

namespace Text

variable {sep : Char} {cs p q l : List Char} {ls : List (List Char)}

theorem splitAt_cons_of_ne {c : Char} (hc : c ≠ sep) (h : splitAt sep cs = l :: ls) :
    splitAt sep (c :: cs) = (c :: l) :: ls := by
  rw [splitAt, if_neg hc, h]

theorem splitAt_append_sep (p q : List Char) :
    splitAt sep (p ++ sep :: q) = splitAt sep p ++ splitAt sep q := by
  induction p with
  | nil => simp [splitAt]
  | cons c p ih =>
    by_cases hc : c = sep
    · simp [splitAt, hc, ih]
    · obtain ⟨l, ls, h⟩ := List.exists_cons_of_ne_nil (splitAt_ne_nil sep p)
      rw [List.cons_append, splitAt_cons_of_ne hc h, List.cons_append]
      apply splitAt_cons_of_ne hc
      rw [ih, h, List.cons_append]

theorem splitAt_append_of_not_mem (hq : sep ∉ q) (h : splitAt sep p = ls ++ [l]) :
    splitAt sep (p ++ q) = ls ++ [l ++ q] := by
  induction p generalizing ls l with
  | nil =>
    obtain ⟨rfl, rfl⟩ : ls = [] ∧ l = [] := by
      cases ls with
      | nil => simpa [splitAt, eq_comm] using h
      | cons => simp [splitAt] at h
    clear h
    induction q with
    | nil => rfl
    | cons c q ih =>
      simp only [List.mem_cons, not_or] at hq
      exact splitAt_cons_of_ne (Ne.symm hq.1) (ih hq.2)
  | cons c p ih =>
    by_cases hc : c = sep
    · rw [splitAt, if_pos hc] at h
      rw [List.cons_append, splitAt, if_pos hc]
      cases ls with
      | nil => exact absurd (List.cons.inj h).2 (splitAt_ne_nil sep p)
      | cons l' ls =>
        obtain ⟨rfl, htail⟩ := List.cons.inj h
        rw [ih htail, List.cons_append]
    · obtain ⟨l', ls', h'⟩ := List.exists_cons_of_ne_nil (splitAt_ne_nil sep p)
      rw [splitAt_cons_of_ne hc h'] at h
      cases ls with
      | nil =>
        obtain ⟨rfl, rfl⟩ := List.cons.inj h
        have hnil : splitAt sep p = [] ++ [l'] := h'
        exact splitAt_cons_of_ne hc (ih hnil)
      | cons l'' ls =>
        obtain ⟨rfl, rfl⟩ := List.cons.inj h
        have hcons : splitAt sep p = (l' :: ls) ++ [l] := h'
        exact splitAt_cons_of_ne hc (ih hcons)

theorem splitAt_of_not_mem (h : sep ∉ cs) : splitAt sep cs = [cs] :=
  @splitAt_append_of_not_mem sep [] cs [] [] h rfl

theorem splitAt_append_left (hp : sep ∉ p) (h : splitAt sep q = l :: ls) :
    splitAt sep (p ++ q) = (p ++ l) :: ls := by
  induction p with
  | nil => exact h
  | cons c p ih =>
    rw [List.mem_cons, not_or] at hp
    exact splitAt_cons_of_ne (Ne.symm hp.1) (ih hp.2)

theorem not_mem_of_mem_splitAt (h : l ∈ splitAt sep cs) : sep ∉ l := by
  induction cs generalizing l with
  | nil =>
    obtain rfl := List.mem_singleton.mp h
    exact List.not_mem_nil
  | cons c cs ih =>
    by_cases hc : c = sep
    · rw [splitAt, if_pos hc] at h
      rcases List.mem_cons.mp h with rfl | h
      · exact List.not_mem_nil
      · exact ih h
    · obtain ⟨l', ls, hs⟩ := List.exists_cons_of_ne_nil (splitAt_ne_nil sep cs)
      rw [splitAt_cons_of_ne hc hs] at h
      rw [hs] at ih
      rcases List.mem_cons.mp h with rfl | h
      · simp only [List.mem_cons, not_or]
        exact ⟨Ne.symm hc, ih List.mem_cons_self⟩
      · exact ih (List.mem_cons_of_mem _ h)

end Text

namespace Path

/-- A segment as it stands in a path: not empty, no single point, and without a slash. -/
structure IsSegment (s : String) : Prop where
  ne_empty : s ≠ ""
  ne_point : s ≠ "."
  slash_not_mem : '/' ∉ s.toList

theorem isSegment_up : IsSegment ".." := ⟨by decide, by decide, by decide⟩

theorem isSegment_of_mem {path s : String} (h : s ∈ segments path) : IsSegment s := by
  obtain ⟨hmem, hs⟩ := List.mem_filter.mp h
  obtain ⟨l, hl, rfl⟩ := List.mem_map.mp hmem
  simp only [Bool.and_eq_true, Bool.not_eq_true', bne_iff_ne, ne_eq] at hs
  refine ⟨fun h => ?_, hs.2, ?_⟩
  · rw [h] at hs
    exact absurd hs.1 (by decide)
  · rw [String.toList_ofList]
    exact Text.not_mem_of_mem_splitAt hl

theorem segments_append_slash (p q : String) :
    segments (p ++ "/" ++ q) = segments p ++ segments q := by
  have h : (p ++ "/" ++ q).toList = p.toList ++ '/' :: q.toList := by simp
  simp only [segments, h, Text.splitAt_append_sep, List.map_append, List.filter_append]

theorem segments_of_isSegment {s : String} (h : IsSegment s) : segments s = [s] := by
  have hne : s.isEmpty = false := by simpa using h.ne_empty
  simp [segments, Text.splitAt_of_not_mem h.slash_not_mem, String.ofList_toList, hne, h.ne_point]

theorem exists_segments_eq_append {path : String} {ls : List (List Char)} {last : List Char}
    (h : Text.splitAt '/' path.toList = ls ++ [last]) (hne : String.ofList last ≠ "")
    (hpoint : String.ofList last ≠ ".") :
    ∃ front, segments path = front ++ [String.ofList last] := by
  have hempty : (String.ofList last).isEmpty = false := by simpa using hne
  refine ⟨(ls.map String.ofList).filter fun s => !s.isEmpty && s != ".", ?_⟩
  rw [segments, h, List.map_append, List.filter_append, List.map_singleton,
    List.filter_cons_of_pos (by rw [hempty, bne_iff_ne.mpr hpoint]; rfl), List.filter_nil]

@[simp] theorem segments_empty : segments "" = [] := by decide

@[simp] theorem segments_point : segments "." = [] := by decide

theorem segments_intercalate {ss : List String} (h : ∀ s ∈ ss, IsSegment s) :
    segments ("/".intercalate ss) = ss := by
  induction ss with
  | nil => rw [String.intercalate_nil, segments_empty]
  | cons s ss ih =>
    have hs := segments_of_isSegment (h s List.mem_cons_self)
    cases ss with
    | nil => rw [String.intercalate_singleton, hs]
    | cons s' ss =>
      rw [String.intercalate_cons_cons, segments_append_slash, hs,
        ih fun x hx => h x (List.mem_cons_of_mem _ hx)]
      rfl

theorem isAbsolute_eq_false_of_slash_not_mem {path : String} (h : '/' ∉ path.toList) :
    isAbsolute path = false := by
  rw [isAbsolute, beq_eq_false_iff_ne]
  exact fun hhead => h (List.mem_of_head? hhead)

theorem takeWhile_slash_eq_nil {path : String} (h : isAbsolute path = false) :
    path.toList.takeWhile (· == '/') = [] := by
  cases hcs : path.toList with
  | nil => rfl
  | cons c cs =>
    have hc : (c == '/') = false := by simpa [isAbsolute, hcs] using h
    rw [List.takeWhile_cons, hc]
    rfl

theorem isAbsolute_eq_false_or_root (path : String) :
    (isAbsolute path = false ∧ root path = "") ∨
      isAbsolute path = true ∧ (root path = "/" ∨ root path = "//") := by
  by_cases h : isAbsolute path = true
  · refine Or.inr ⟨h, ?_⟩
    obtain ⟨cs, hcs⟩ : ∃ cs, path.toList = '/' :: cs := by
      simpa [isAbsolute, List.head?_eq_some_iff] using h
    rw [root, hcs]
    split
    · rename_i hlength
      simp at hlength
    · exact Or.inr rfl
    · exact Or.inl rfl
  · refine Or.inl ⟨by simpa using h, ?_⟩
    rw [root, takeWhile_slash_eq_nil (by simpa using h)]
    rfl

theorem segments_root_append (path body : String) :
    segments (root path ++ body) = segments body := by
  have hslash : ∀ q, segments ("/" ++ q) = segments q := fun q => by
    simpa using segments_append_slash "" q
  have htwo : "//" = "/" ++ "/" := by decide
  rcases isAbsolute_eq_false_or_root path with ⟨-, h⟩ | ⟨-, h | h⟩
  · rw [h, String.empty_append]
  · rw [h, hslash]
  · rw [h, htwo, String.append_assoc, hslash, hslash]

theorem segments_tidy (path : String) : segments (tidy path) = segments path := by
  have hbody := @segments_intercalate (segments path) fun _ => isSegment_of_mem
  have hwhole := segments_root_append path ("/".intercalate (segments path))
  rw [hbody] at hwhole
  simp only [tidy]
  split
  · rename_i hempty
    rw [String.isEmpty_iff.mp hempty, segments_empty] at hwhole
    rw [segments_point, hwhole]
  · exact hwhole

theorem isAbsolute_intercalate {ss : List String} (h : ∀ s ∈ ss, IsSegment s) :
    isAbsolute ("/".intercalate ss) = false := by
  cases ss with
  | nil => decide
  | cons s ss =>
    have hs := h s List.mem_cons_self
    have hrel := isAbsolute_eq_false_of_slash_not_mem hs.slash_not_mem
    obtain ⟨c, cs, hc⟩ := List.exists_cons_of_ne_nil (mt String.toList_eq_nil_iff.mp hs.ne_empty)
    cases ss with
    | nil => rwa [String.intercalate_singleton]
    | cons s' ss =>
      rw [String.intercalate_cons_cons]
      simpa [isAbsolute, hc] using hrel

theorem isAbsolute_tidy (path : String) : isAbsolute (tidy path) = isAbsolute path := by
  have hbody := @isAbsolute_intercalate (segments path) fun _ => isSegment_of_mem
  simp only [tidy]
  rcases isAbsolute_eq_false_or_root path with ⟨habs, h⟩ | ⟨habs, h | h⟩
  · rw [h, habs, String.empty_append]
    split
    · decide
    · exact hbody
  · rw [h, habs]
    simp [isAbsolute]
  · rw [h, habs]
    simp [isAbsolute]

theorem root_tidy (path : String) : root (tidy path) = root path := by
  have hbody := takeWhile_slash_eq_nil
    (isAbsolute_intercalate fun s (hs : s ∈ segments path) => isSegment_of_mem hs)
  rcases isAbsolute_eq_false_or_root path with ⟨habs, h⟩ | ⟨-, h | h⟩
  · rw [← isAbsolute_tidy] at habs
    rw [h, root, takeWhile_slash_eq_nil habs]
    rfl
  all_goals
    rw [h, root, tidy, h]
    generalize "/".intercalate (segments path) = body at hbody ⊢
    simp [hbody]

theorem tidy_tidy (path : String) : tidy (tidy path) = tidy path := by
  rw [tidy, root_tidy, segments_tidy]
  rfl

variable {here : List String} {dir name : String}

theorem isAbsolute_eq_false_of_ne {c : Char} {cs : List Char} (hc : c ≠ '/')
    (h : name.toList = c :: cs) : isAbsolute name = false := by
  simp [isAbsolute, h, hc]

theorem join_ne_empty (h : name ≠ "") (dir : String) : join dir name ≠ "" := by
  unfold join
  split
  · exact h
  · split <;> simp [h]

theorem segments_join (h : isAbsolute name = false) (dir : String) :
    segments (join dir name) = segments dir ++ segments name := by
  unfold join
  rw [if_neg (by simp [h])]
  split
  · rename_i hdir
    rcases Bool.or_eq_true_iff.mp hdir with he | hl
    · rw [String.isEmpty_iff.mp he, String.empty_append, segments_empty, List.nil_append]
    · obtain ⟨p, hp⟩ : ∃ p, dir.toList = p ++ ['/'] := by
        exact List.getLast?_eq_some_iff.mp (by simpa using hl)
      obtain rfl : dir = String.ofList p ++ "/" := by
        apply String.toList_injective
        simp [hp]
      have hd := segments_append_slash (String.ofList p) ""
      rw [String.append_empty, segments_empty, List.append_nil] at hd
      rw [hd, segments_append_slash]
  · exact segments_append_slash dir name

theorem isAbsolute_join (h : isAbsolute name = false) (dir : String) :
    isAbsolute (join dir name) = isAbsolute dir := by
  unfold join
  rw [if_neg (by simp [h])]
  by_cases hd : dir = ""
  · subst hd
    simpa [isAbsolute] using h
  · obtain ⟨c, cs, hc⟩ := List.exists_cons_of_ne_nil (mt String.toList_eq_nil_iff.mp hd)
    split <;> simp [isAbsolute, hc]

theorem resolve_join (h : isAbsolute name = false) (here : List String) (dir : String) :
    resolve here (join dir name) =
      ((segments name).foldl step (resolve here dir).reverse).reverse := by
  simp only [resolve, isAbsolute_join h, segments_join h, List.foldl_append, List.reverse_reverse]

theorem resolve_start (here : List String) (dir : String) :
    resolve here (if dir.isEmpty then "." else dir) = resolve here dir := by
  split
  · rename_i hdir
    rw [String.isEmpty_iff.mp hdir]
    rfl
  · rfl

/-- A way that is written after a point and a slash leads on from the directory. -/
theorem resolve_join_way {way : List String} (hway : ∀ s ∈ way, IsSegment s)
    (here : List String) (dir : String) :
    resolve here (join dir ("./" ++ "/".intercalate way)) =
      (way.foldl step (resolve here dir).reverse).reverse := by
  have hsegments : segments ("./" ++ "/".intercalate way) = way := by
    have h := segments_append_slash "." ("/".intercalate way)
    rwa [segments_point, List.nil_append, segments_intercalate hway] at h
  have hpoint : ("./" ++ "/".intercalate way).toList = '.' :: '/' :: ("/".intercalate way).toList :=
    String.toList_append
  rw [resolve_join (isAbsolute_eq_false_of_ne (by decide) hpoint), hsegments]

/-- What stands before the last segment of a way does not depend on that segment. -/
theorem exists_toList_intercalate_append (way : List String) :
    ∃ head, (head = [] ∨ ∃ h, head = h ++ ['/']) ∧
      ∀ s, ("/".intercalate (way ++ [s])).toList = head ++ s.toList := by
  by_cases hway : way = []
  · refine ⟨[], Or.inl rfl, fun s => ?_⟩
    rw [hway, List.nil_append, String.intercalate_singleton, List.nil_append]
  · refine ⟨("/".intercalate way).toList ++ ['/'], Or.inr ⟨_, rfl⟩, fun s => ?_⟩
    rw [String.intercalate_append_of_ne_nil hway (List.cons_ne_nil _ _),
      String.intercalate_singleton]
    simp

end Path

end VueWrap
