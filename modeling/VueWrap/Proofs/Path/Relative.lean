import VueWrap.Proofs.Path.Segments

/-! # The way from one place to another

Following the way from one place to another leads there. The places are lists of
names, which stand for themselves, and the way goes back by two points only.
-/

namespace VueWrap.Path

/-- A segment that names an entry of a directory. -/
structure IsName (s : String) : Prop extends IsSegment s where
  ne_up : s ≠ ".."

/-- A character that is no point makes a segment a name. -/
theorem isName_ofList {l : List Char} (hpoint : ∃ c ∈ l, c ≠ '.') (hslash : '/' ∉ l) :
    IsName (String.ofList l) := by
  obtain ⟨c, hc, hne⟩ := hpoint
  have hmem : c ∈ (String.ofList l).toList := by
    rwa [String.toList_ofList]
  refine ⟨⟨?_, ?_, ?_⟩, ?_⟩
  · intro h
    simp [h] at hmem
  · intro h
    simp [h, hne] at hmem
  · rwa [String.toList_ofList]
  · intro h
    simp [h, hne] at hmem

variable {s last : String} {ss start goal stack here : List String}

theorem foldl_step_of_names (h : ∀ s ∈ ss, s ≠ "..") (stack : List String) :
    ss.foldl step stack = ss.reverse ++ stack := by
  induction ss generalizing stack with
  | nil => rfl
  | cons s ss ih =>
    have hs : step stack s = s :: stack := if_neg (h s List.mem_cons_self)
    rw [List.foldl_cons, hs, ih fun x hx => h x (List.mem_cons_of_mem _ hx)]
    simp

theorem foldl_step_ups (start stack : List String) :
    (start.map fun _ => "..").foldl step (start.reverse ++ stack) = stack := by
  -- Every step back drops the nearest segment, whatever it is.
  have hdrop : ∀ n l, (List.replicate n "..").foldl step l = l.drop n := by
    intro n
    induction n with
    | zero => exact fun l => rfl
    | succ n ih =>
      intro l
      rw [List.replicate_succ, List.foldl_cons, ih, step, if_pos rfl, List.drop_drop,
        Nat.add_comm]
  rw [List.map_const', hdrop]
  exact List.drop_left' (by simp)

/-- The way to a place leads there. -/
theorem foldl_step_relative (h : ∀ s ∈ goal, s ≠ "..") (stack : List String) :
    (relative start goal).foldl step (start.reverse ++ stack) = goal.reverse ++ stack := by
  induction start generalizing goal stack with
  | nil =>
    show goal.foldl step stack = _
    exact foldl_step_of_names h stack
  | cons s start ih =>
    cases goal with
    | nil =>
      show (((s :: start).map fun _ => "..") ++ []).foldl step _ = _
      rw [List.append_nil]
      exact foldl_step_ups (s :: start) stack
    | cons t goal =>
      rw [relative]
      split
      · rename_i heq
        subst heq
        have hg : ∀ x ∈ goal, x ≠ ".." := fun x hx => h x (List.mem_cons_of_mem _ hx)
        simpa using ih hg (s :: stack)
      · rw [List.foldl_append, foldl_step_ups]
        exact foldl_step_of_names h stack

/-- Unless the goal lies on the way to the start, the way ends with the last name of the goal. -/
theorem exists_relative_eq_append (h : ¬ goal ++ [last] <+: start) :
    ∃ way, relative start (goal ++ [last]) = way ++ [last] := by
  induction start generalizing goal with
  | nil => exact ⟨goal, rfl⟩
  | cons s start ih =>
    cases goal with
    | nil =>
      rw [List.nil_append, relative]
      split
      · rename_i heq
        exact absurd (by simp [heq]) h
      · exact ⟨_, rfl⟩
    | cons t goal =>
      rw [List.cons_append, relative]
      split
      · rename_i heq
        apply ih
        rintro hpre
        exact h (by simpa [heq] using hpre)
      · exact ⟨((s :: start).map fun _ => "..") ++ t :: goal, by simp⟩

theorem mem_relative (h : s ∈ relative start goal) : s = ".." ∨ s ∈ goal := by
  induction start generalizing goal with
  | nil => exact Or.inr h
  | cons x start ih =>
    cases goal with
    | nil =>
      rw [relative, List.append_nil] at h
      · obtain ⟨_, _, rfl⟩ := List.mem_map.mp h
        exact Or.inl rfl
      · simp
    | cons t goal =>
      rw [relative] at h
      split at h
      · exact (ih h).imp_right (List.mem_cons_of_mem _)
      · rcases List.mem_append.mp h with h | h
        · obtain ⟨_, _, rfl⟩ := List.mem_map.mp h
          exact Or.inl rfl
        · exact Or.inr h

theorem mem_foldl_step (hstack : ∀ s ∈ stack, IsName s) (hss : ∀ s ∈ ss, IsSegment s) :
    ∀ s ∈ ss.foldl step stack, IsName s := by
  induction ss generalizing stack with
  | nil => exact hstack
  | cons s ss ih =>
    refine ih ?_ fun x hx => hss x (List.mem_cons_of_mem _ hx)
    unfold step
    split
    · exact fun x hx => hstack x (List.mem_of_mem_drop hx)
    · rename_i hs
      intro x hx
      rcases List.mem_cons.mp hx with rfl | hx
      · exact ⟨hss x List.mem_cons_self, hs⟩
      · exact hstack x hx

theorem isName_of_mem_resolve {path : String} (hhere : ∀ s ∈ here, IsName s)
    (h : s ∈ resolve here path) : IsName s := by
  refine mem_foldl_step ?_ (fun _ => isSegment_of_mem) s (List.mem_reverse.mp h)
  split
  · exact fun x hx => absurd hx List.not_mem_nil
  · exact fun x hx => hhere x (List.mem_reverse.mp hx)

/-- A place that is found from the root. -/
theorem isName_of_mem_resolve_nil {path : String} (h : s ∈ resolve [] path) : IsName s :=
  isName_of_mem_resolve (fun _ hx => absurd hx List.not_mem_nil) h

/-- A path whose last segment is a name leads to a place that ends with the name. -/
theorem exists_resolve_eq_append (here : List String) {file : String} {ls : List (List Char)}
    {last : List Char} (hsplit : Text.splitAt '/' file.toList = ls ++ [last])
    (hlast : IsName (String.ofList last)) (dir : String) :
    ∃ front, resolve here (join dir file) = front ++ [String.ofList last] := by
  obtain ⟨front, hfront⟩ := exists_segments_eq_append hsplit hlast.ne_empty hlast.ne_point
  have hstep : ∀ stack, ((front ++ [String.ofList last]).foldl step stack).reverse =
      (front.foldl step stack).reverse ++ [String.ofList last] := by
    intro stack
    rw [List.foldl_append, List.foldl_cons, List.foldl_nil, step, if_neg hlast.ne_up,
      List.reverse_cons]
  by_cases habs : isAbsolute file = true
  · rw [join, if_pos habs, resolve, hfront]
    exact ⟨_, hstep _⟩
  · rw [resolve_join (by simpa using habs), hfront]
    exact ⟨_, hstep _⟩

variable {front : List String}

theorem between_congr {start start' : String} (h : resolve here start = resolve here start')
    (file : String) : between here start file = between here start' file := by
  rw [between, between, h]

/-- The way to a file, split before the name of the file: its front leads to the directory of the
file. -/
theorem exists_between_eq {start file : String} (hhere : ∀ s ∈ here, IsName s)
    (hfile : resolve here file = front ++ [last]) (h : ¬ resolve here file <+: resolve here start) :
    ∃ way, (∀ s ∈ way, IsSegment s) ∧
      between here start file = "/".intercalate (way ++ [last]) ∧
      way.foldl step (resolve here start).reverse = front.reverse := by
  have hnames : ∀ s ∈ front ++ [last], IsName s := by
    rw [← hfile]
    exact fun _ => isName_of_mem_resolve hhere
  have hlast : last ≠ ".." := (hnames last (by simp)).ne_up
  rw [hfile] at h
  obtain ⟨way, hway⟩ := exists_relative_eq_append h
  refine ⟨way, ?_, ?_, ?_⟩
  · intro s hs
    rcases mem_relative (hway ▸ List.mem_append_left [last] hs) with rfl | hs
    · exact isSegment_up
    · exact (hnames s hs).toIsSegment
  · rw [between, hfile, hway]
    split
    · rename_i hnil
      exact absurd hnil (by simp)
    · rfl
  · have hgoal : (relative (resolve here start) (front ++ [last])).foldl step
        ((resolve here start).reverse ++ []) = (front ++ [last]).reverse ++ [] :=
      foldl_step_relative (fun s hs => (hnames s hs).ne_up) []
    rw [hway, List.append_nil, List.append_nil, List.foldl_append, List.foldl_cons,
      List.foldl_nil, step, if_neg hlast, List.reverse_append, List.reverse_singleton] at hgoal
    exact (List.cons.inj hgoal).2

end VueWrap.Path
