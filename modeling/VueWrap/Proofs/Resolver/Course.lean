import Mathlib.Data.Finset.Basic
import Mathlib.Data.List.Perm.Subperm
import VueWrap.Proofs.Resolver.Coverage

/-! # The course of a resolution

A resolution goes from moment to moment: it takes the next type, enters a definition and
marks its name, or leaves one and takes the mark away. At every moment the marked names
are those of the definitions that are entered and not left, each of them once and all of
them in the registry. So no more definitions are inside each other than the registry has
names, every definition that is entered is left with the same marks as before, and the
course comes to its end with the tokens that the types resolve to.
-/

namespace VueWrap

namespace Resolver

/-- A definition that has been entered, and what goes on outside of it: the tokens found before it
and the types after it. -/
structure Level where
  name : String
  found : List Value
  rest : List TypeRef

/-- What is going on: types are taken one by one, or all definitions are left because of a type. -/
inductive Activity where
  | taking (found : List Value) (rest : List TypeRef)
  | ending (stop : Stop)

/-- A moment: the marked names, and the definitions that have been entered, the innermost first. -/
structure Moment where
  marked : Finset String
  levels : List Level
  activity : Activity

/-- The beginning: nothing is marked or entered, and all types are to be taken. -/
def start (types : List TypeRef) : Moment := ⟨∅, [], .taking [] types⟩

variable (r : Resolver) (g : Registry)

/-- A type is taken. Its definition is entered unless its name is marked. -/
def take (m : Moment) (found : List Value) (t : TypeRef) (rest : List TypeRef) : Moment :=
  match r.meaning g t with
  | .any => { m with activity := .ending .unrestricted }
  | .nameless => { m with activity := .ending .nameless }
  | .tokens ts => { m with activity := .taking (merge found ts) rest }
  | .unknown _ => { m with activity := .taking (merge found [objectToken]) rest }
  | .blank => { m with activity := .taking (merge found [objectToken]) rest }
  | .alias name types =>
    if name ∈ m.marked then { m with activity := .taking (merge found [objectToken]) rest }
    else ⟨insert name m.marked, ⟨name, found, rest⟩ :: m.levels, .taking [] types⟩

/-- The next moment. A definition is left when its types have been taken, and also when all
definitions are left; its mark is taken away in both cases. -/
def next (m : Moment) : Option Moment :=
  match m.activity, m.levels with
  | .taking found (t :: rest), _ => some (r.take g m found t rest)
  | .taking found [], l :: levels =>
    some ⟨m.marked.erase l.name, levels, .taking (merge l.found found) l.rest⟩
  | .ending stop, l :: levels => some ⟨m.marked.erase l.name, levels, .ending stop⟩
  | .taking _ [], [] => none
  | .ending _, [] => none

/-- A course from one moment to another that leaves none of the definitions `base`. -/
def Within (base : List Level) : Moment → Moment → Prop :=
  Relation.ReflTransGen fun m m' => r.next g m = some m' ∧ base <:+ m'.levels

/-- The moments of the course that begins with some types. -/
def During (types : List TypeRef) : Moment → Prop :=
  Relation.ReflTransGen (fun m m' => r.next g m = some m') (start types)

/-- What the types resolve to at the end of the course. -/
def Activity.outcome : Activity → Except Failure (List Value)
  | .taking found _ => .ok found
  | .ending .unrestricted => .ok []
  | .ending .nameless => .error .wrongKind

/-- The names of the definitions that have been entered, the innermost first. -/
def Moment.names (m : Moment) : List String := m.levels.map (·.name)

variable {r g} {m m' : Moment} {types rest : List TypeRef} {t : TypeRef} {base base' : List Level}
  {visiting : List String} {found : List Value} {levels : List Level} {marked : Finset String}

/-- A step stays where it is, enters the definition of a name that is not marked, or leaves the
innermost definition. -/
theorem next_cases (h : r.next g m = some m') :
    (∃ a, m' = { m with activity := a }) ∨
      (∃ found t rest name types, m.activity = .taking found (t :: rest) ∧
        r.meaning g t = .alias name types ∧ name ∉ m.marked ∧
        m' = ⟨insert name m.marked, ⟨name, found, rest⟩ :: m.levels, .taking [] types⟩) ∨
      ∃ l levels a, m.levels = l :: levels ∧ m' = ⟨m.marked.erase l.name, levels, a⟩ := by
  obtain ⟨marked, levels, activity⟩ := m
  cases activity with
  | ending stop =>
    cases levels with
    | nil => cases h
    | cons l levels =>
      obtain rfl := Option.some.inj h
      exact Or.inr (Or.inr ⟨l, levels, _, rfl, rfl⟩)
  | taking found types =>
    cases types with
    | nil =>
      cases levels with
      | nil => cases h
      | cons l levels =>
        obtain rfl := Option.some.inj h
        exact Or.inr (Or.inr ⟨l, levels, _, rfl, rfl⟩)
    | cons t rest =>
      obtain rfl : r.take g ⟨marked, levels, .taking found (t :: rest)⟩ found t rest = m' :=
        Option.some.inj h
      rw [take]
      split
      case h_6 name types hm =>
        split
        · exact Or.inl ⟨_, rfl⟩
        · rename_i hn
          exact Or.inr (Or.inl ⟨found, t, rest, name, types, rfl, hm, hn, rfl⟩)
      all_goals exact Or.inl ⟨_, rfl⟩

/-- The marked names are those of the definitions that have been entered, no definition is entered
twice, and all of them are in the registry. -/
structure Moment.Sound (g : Registry) (m : Moment) : Prop where
  marked : m.marked = m.names.toFinset
  nodup : m.names.Nodup
  defined : ∀ name ∈ m.names, ∃ d, g.get? (.str name) = some d

theorem sound_start (types : List TypeRef) : (start types).Sound g where
  marked := rfl
  nodup := List.nodup_nil
  defined := List.forall_mem_nil _

theorem Moment.Sound.next (hs : m.Sound g) (h : r.next g m = some m') : m'.Sound g := by
  obtain ⟨hmarked, hnodup, hdefined⟩ := hs
  rcases next_cases h with ⟨a, rfl⟩ | ⟨found, t, rest, name, types, -, hm, hn, rfl⟩ |
    ⟨l, levels, a, hlevels, rfl⟩
  · exact ⟨hmarked, hnodup, hdefined⟩
  · -- A name that is not marked has not been entered.
    have hnew : name ∉ m.names := by simpa [hmarked] using hn
    obtain ⟨d, hd, -⟩ := get?_of_meaning_eq_alias r g hm
    refine ⟨?_, List.nodup_cons.mpr ⟨hnew, hnodup⟩, List.forall_mem_cons.mpr ⟨⟨d, hd⟩, hdefined⟩⟩
    simp [Moment.names, hmarked]
  · have hnames : m.names = l.name :: levels.map (·.name) := by simp [Moment.names, hlevels]
    rw [hnames] at hmarked hnodup hdefined
    obtain ⟨hl, hrest⟩ := List.nodup_cons.mp hnodup
    refine ⟨?_, hrest, (List.forall_mem_cons.mp hdefined).2⟩
    -- The name has been entered only once, so no other definition loses its mark.
    have hl' : l.name ∉ (levels.map (·.name)).toFinset := by rwa [List.mem_toFinset]
    simp only [Moment.names]
    rw [hmarked, List.toFinset_cons, Finset.erase_insert hl']

theorem During.sound (h : During r g types m) : m.Sound g := by
  induction h with
  | refl => exact sound_start types
  | tail _ hstep ih => exact ih.next hstep

/-- Distinct names that are all in the registry are no more than it has. -/
theorem Moment.Sound.length_le (hs : m.Sound g) : m.levels.length ≤ (firsts g.names).length := by
  have hsub : m.names.map Value.str ⊆ firsts g.names := by
    intro v hv
    obtain ⟨name, hname, rfl⟩ := List.mem_map.mp hv
    obtain ⟨d, hd⟩ := hs.defined name hname
    obtain ⟨e, he, hsame⟩ := exists_same_of_get? hd
    have hhas : Has (firsts g.names) (.str name) := by
      rw [← merge_nil, has_merge]
      exact Or.inr ⟨e.1, List.mem_map_of_mem he, hsame⟩
    obtain ⟨k, hk, hsame'⟩ := hhas
    rwa [← eq_str_of_same hsame']
  have hnodup : (m.names.map Value.str).Nodup :=
    hs.nodup.map fun _ _ h => Value.str.inj h
  have hle := (List.subperm_of_subset hnodup hsub).length_le
  simpa [Moment.names] using hle

theorem Within.mono (hbase : base' <:+ base) (h : Within r g base m m') : Within r g base' m m' :=
  Relation.ReflTransGen.mono (fun _ _ h => ⟨h.1, hbase.trans h.2⟩) _ _ h

theorem Within.during (hm : During r g types m) (h : Within r g base m m') :
    During r g types m' :=
  Relation.ReflTransGen.trans hm (Relation.ReflTransGen.mono (fun _ _ h => h.1) _ _ h)

/-- What goes on when a type has the tokens that it expands to. -/
def proceed (found : List Value) (rest : List TypeRef) : Except Stop (List Value) → Activity
  | .ok tokens => .taking (merge found tokens) rest
  | .error stop => .ending stop

def conclude : Except Stop (List Value) → Activity
  | .ok tokens => .taking tokens []
  | .error stop => .ending stop

theorem within_of_take {a : Activity}
    (h : r.take g ⟨marked, levels, .taking found (t :: rest)⟩ found t rest = ⟨marked, levels, a⟩) :
    Within r g levels ⟨marked, levels, .taking found (t :: rest)⟩ ⟨marked, levels, a⟩ :=
  .single ⟨congrArg some h, List.suffix_rfl⟩

/-- The innermost definition is left with what its types expand to. -/
theorem next_conclude (r : Resolver) (g : Registry) (marked : Finset String) (l : Level)
    (levels : List Level) (o : Except Stop (List Value)) :
    r.next g ⟨marked, l :: levels, conclude o⟩ =
      some ⟨marked.erase l.name, levels, proceed l.found l.rest o⟩ := by
  cases o <;> rfl

theorem next_enter {name : String} (hm : r.meaning g t = .alias name types) (hn : name ∉ marked) :
    r.next g ⟨marked, levels, .taking found (t :: rest)⟩ =
      some ⟨insert name marked, ⟨name, found, rest⟩ :: levels, .taking [] types⟩ := by
  simp only [next, take, hm, if_neg hn]

/-- Taking types leads to what they expand to, and goes on with the same marks inside the same
definitions. The induction is that of the expansion. -/
theorem within_expand (visiting : List String) (found : List Value) (types : List TypeRef) :
    ∀ (marked : Finset String) (levels : List Level), marked = visiting.toFinset →
      Within r g levels ⟨marked, levels, .taking found types⟩
        ⟨marked, levels, conclude (r.expand g visiting found types)⟩ := by
  refine expand.induct r g
    (fun visiting t => ∀ (found : List Value) (rest : List TypeRef) (marked : Finset String)
      (levels : List Level), marked = visiting.toFinset →
        Within r g levels ⟨marked, levels, .taking found (t :: rest)⟩
          ⟨marked, levels, proceed found rest (r.expandOne g visiting t)⟩)
    (fun visiting found types => ∀ (marked : Finset String) (levels : List Level),
      marked = visiting.toFinset →
        Within r g levels ⟨marked, levels, .taking found types⟩
          ⟨marked, levels, conclude (r.expand g visiting found types)⟩)
    ?any ?nameless ?tokens ?unknown ?blank ?again ?follow ?nil ?stop ?next visiting found types
  case any | nameless | tokens | unknown | blank =>
    intros
    rename_i hm found rest marked levels _
    refine within_of_take ?_
    simp only [take, expandOne_eq, hm, proceed]
  case again =>
    intro visiting t name types hm hn found rest marked levels hmarked
    have hn' : name ∈ marked := by rwa [hmarked, List.mem_toFinset]
    refine within_of_take ?_
    simp only [take, expandOne_eq, hm, if_pos hn, if_pos hn', proceed]
  case follow =>
    intro visiting t name types hm hn ih found rest marked levels hmarked
    have hn' : name ∉ marked := by rwa [hmarked, List.mem_toFinset]
    have hinside := ih (insert name marked) (⟨name, found, rest⟩ :: levels) (by simp [hmarked])
    have hleave := next_conclude r g (insert name marked) ⟨name, found, rest⟩ levels
      (r.expand g (name :: visiting) [] types)
    rw [Finset.erase_insert hn'] at hleave
    simp only [expandOne_eq, hm, if_neg hn]
    refine .head ⟨next_enter hm hn', List.suffix_cons _ _⟩ ?_
    exact (hinside.mono (List.suffix_cons _ _)).tail ⟨hleave, List.suffix_rfl⟩
  case nil =>
    intro visiting found marked levels _
    rw [expand]
    exact .refl
  case stop =>
    intro visiting found t ts e hone ih marked levels hmarked
    have hfirst := ih found ts marked levels hmarked
    rw [hone] at hfirst
    rw [expand, hone]
    exact hfirst
  case next =>
    intro visiting found t ts tokens hone ih₁ ih₂ marked levels hmarked
    have hfirst := ih₁ found ts marked levels hmarked
    rw [hone] at hfirst
    rw [expand, hone]
    exact hfirst.trans (ih₂ marked levels hmarked)

/-- A definition that is entered is left again, with the marks there were before it was entered: to
go on behind it, or to leave the others too. -/
theorem Moment.Sound.exists_left (hs : m.Sound g) (h : r.next g m = some m') {l : Level}
    (hl : m'.levels = l :: m.levels) :
    ∃ e e', Within r g m'.levels m' e ∧ r.next g e = some e' ∧
      e'.levels = m.levels ∧ e'.marked = m.marked ∧
      ((∃ tokens, e'.activity = .taking (merge l.found tokens) l.rest) ∨
        ∃ stop, e'.activity = .ending stop) := by
  rcases next_cases h with ⟨a, rfl⟩ | ⟨found, t, rest, name, types, -, hm, hn, rfl⟩ |
    ⟨l', levels, a, hlevels, rfl⟩
  · simp at hl
  · obtain ⟨rfl, -⟩ := List.cons.inj hl
    have hmarked : insert name m.marked = (name :: m.names).toFinset := by simp [hs.marked]
    refine ⟨_, _, within_expand (name :: m.names) [] types _ _ hmarked,
      next_conclude r g _ _ _ _, rfl, Finset.erase_insert hn, ?_⟩
    cases r.expand g (name :: m.names) [] types with
    | ok tokens => exact Or.inl ⟨tokens, rfl⟩
    | error stop => exact Or.inr ⟨stop, rfl⟩
  · have hlength := congrArg List.length hl
    simp only [hlevels, List.length_cons] at hlength
    omega

theorem outcome_conclude (o : Except Stop (List Value)) :
    (conclude o).outcome = match o with
      | .ok tokens => .ok tokens
      | .error .unrestricted => .ok []
      | .error .nameless => .error .wrongKind := by
  rcases o with (stop | stop) | tokens <;> rfl

/-- The course ends with all definitions left and no name marked. -/
theorem exists_end (r : Resolver) (g : Registry) (types : List TypeRef) :
    ∃ m, During r g types m ∧ r.next g m = none ∧ m.levels = [] ∧ m.marked = ∅ ∧
      m.activity.outcome = r.resolve g types := by
  refine ⟨_, (within_expand [] [] types ∅ [] rfl).during .refl, ?_, rfl, rfl, ?_⟩
  · cases r.expand g [] [] types <;> rfl
  · exact outcome_conclude _

/-- At every moment of resolving types, the marked names are those of the definitions that have been
entered and not left; they are distinct names of the registry, and no more definitions are inside
each other than the registry has names. Every definition that is entered is left with the same marks
as before, also where an unrestricted type ends the resolution. The course comes to its end, and
there it has what the types resolve to, which are tokens if the types that are met have names. -/
theorem resolve_course (r : Resolver) (g : Registry) (types : List TypeRef) :
    (∀ m, During r g types m →
      m.marked = m.names.toFinset ∧ m.names.Nodup ∧
      (∀ name ∈ m.names, ∃ d, g.get? (.str name) = some d) ∧
      m.levels.length ≤
        (g.names.eraseDupsBy fun later earlier => earlier.same later).length) ∧
    (∀ m m' l, During r g types m → r.next g m = some m' → m'.levels = l :: m.levels →
      ∃ e e', Within r g m'.levels m' e ∧ r.next g e = some e' ∧
        e'.levels = m.levels ∧ e'.marked = m.marked ∧
        ((∃ tokens, e'.activity = .taking (merge l.found tokens) l.rest) ∨
          ∃ stop, e'.activity = .ending stop)) ∧
    (∃ m, During r g types m ∧ r.next g m = none ∧ m.levels = [] ∧ m.marked = ∅ ∧
      m.activity.outcome = r.resolve g types) ∧
    ((∀ t, r.Reaches g types t → Metadata.IsText t.type) →
      ∃ tokens, r.resolve g types = .ok tokens) := by
  refine ⟨fun m hm => ?_, fun m m' l hm h hl => hm.sound.exists_left h hl, exists_end r g types,
    succeeds_resolve_of_reaches⟩
  have hs := hm.sound
  exact ⟨hs.marked, hs.nodup, hs.defined, hs.length_le⟩

/-- A figure enters shapes and leaves them without a mark, though groups lead back to shapes. -/
theorem resolve_course_figure :
    ∃ m' e e', standard.next shapes (start figure) = some m' ∧ m'.marked = {"Shape"} ∧
      Within standard shapes m'.levels m' e ∧ standard.next shapes e = some e' ∧
      e'.levels = [] ∧ e'.marked = ∅ ∧
      ∃ m, During standard shapes figure m ∧ standard.next shapes m = none ∧
        m.activity.outcome = standard.resolve shapes figure := by
  obtain ⟨-, hleave, ⟨m, hm, hend, -, -, houtcome⟩, -⟩ := resolve_course standard shapes figure
  have hshape := meaning_shapes.2.1
  have henter : standard.next shapes (start figure) =
      some ⟨{"Shape"}, [⟨"Shape", [], [typeNamed "boolean"]⟩],
        .taking [] [typeNamed "Group", typeNamed "string"]⟩ :=
    next_enter hshape (Finset.notMem_empty _)
  obtain ⟨e, e', hinside, hnext, hlevels, hmarked, -⟩ := hleave _ _ _ .refl henter rfl
  exact ⟨_, e, e', henter, rfl, hinside, hnext, hlevels, hmarked, m, hm, hend, houtcome⟩

end Resolver

end VueWrap
