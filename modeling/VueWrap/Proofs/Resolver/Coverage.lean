import VueWrap.Proofs.Resolver.Spelling

/-! # What a resolution covers

A name that is met inside its own definition is not followed again. Nothing is
lost by this: whatever its definition leads to has been reached from where the
name was followed first. So types resolve to the tokens of all leaves that they
lead to, and the token for objects also shows that they lead into a cycle.
-/

namespace VueWrap

namespace Resolver

variable {r : Resolver} {g : Registry} {t t' u : TypeRef} {types types' inner inner' : List TypeRef}
  {path path' : List String} {name name' : String} {x : Value} {tokens more : List Value}
  {m : Meaning} {o o' : Except Stop (List Value)}

/-- The types that some types lead to without following the names `path`. -/
inductive ReachesOutside (r : Resolver) (g : Registry) (path : List String)
    (types : List TypeRef) : TypeRef → Prop
  | here {t : TypeRef} (h : t ∈ types) : ReachesOutside r g path types t
  | inside {t t' : TypeRef} {name : String} {inner : List TypeRef}
      (h : ReachesOutside r g path types t) (hm : Means r g t (.alias name inner))
      (hn : name ∉ path) (ht' : t' ∈ inner) : ReachesOutside r g path types t'

theorem ReachesOutside.mono (h : ReachesOutside r g path types t)
    (hsub : ∀ s ∈ types, ReachesOutside r g path types' s) :
    ReachesOutside r g path types' t := by
  induction h with
  | here h => exact hsub _ h
  | inside _ hm hn ht' ih => exact .inside ih hm hn ht'

theorem ReachesOutside.of_cons (h : ReachesOutside r g (name :: path) types t) :
    ReachesOutside r g path types t := by
  induction h with
  | here h => exact .here h
  | inside _ hm hn ht' ih => exact .inside ih hm (mt (List.mem_cons_of_mem _) hn) ht'

/-- What a definition leads to, it leads to without its own name: where the way comes through the
name again, it may begin there. -/
theorem ReachesOutside.again (hm : Means r g u (.alias name inner))
    (h : ReachesOutside r g path inner t) : ReachesOutside r g (name :: path) inner t := by
  induction h with
  | here h => exact .here h
  | @inside t t' name' inner' _ hm' hn ht' ih =>
    by_cases hname : name' = name
    · obtain rfl := hname
      exact .here (hm'.types_eq hm ▸ ht')
    · exact .inside ih hm' (by simp [hname, hn]) ht'

/-- Either the name is met, or it makes no difference whether it is followed. -/
theorem ReachesOutside.cons_or (name : String) (h : ReachesOutside r g path types t) :
    ReachesOutside r g (name :: path) types t ∨
      ∃ u inner, ReachesOutside r g (name :: path) types u ∧ Means r g u (.alias name inner) := by
  induction h with
  | here h => exact Or.inl (.here h)
  | @inside t t' name' inner' _ hm hn ht' ih =>
    rcases ih with ih | ih
    · by_cases hname : name' = name
      · exact Or.inr ⟨t, inner', ih, hname ▸ hm⟩
      · exact Or.inl (.inside ih hm (by simp [hname, hn]) ht')
    · exact Or.inr ih

theorem reachesOutside_nil_iff : ReachesOutside r g path [] t ↔ False := by
  refine iff_false_intro fun h => ?_
  induction h with
  | here h => cases h
  | inside _ _ _ _ ih => exact ih

theorem reachesOutside_cons_iff : ReachesOutside r g path (u :: types) t ↔
    ReachesOutside r g path [u] t ∨ ReachesOutside r g path types t := by
  constructor
  · intro h
    induction h with
    | here h =>
      rcases List.mem_cons.mp h with rfl | h
      · exact Or.inl (.here List.mem_cons_self)
      · exact Or.inr (.here h)
    | inside _ hm hn ht' ih =>
      exact ih.imp (fun h => .inside h hm hn ht') fun h => .inside h hm hn ht'
  · rintro (h | h)
    · exact h.mono fun s hs => .here (List.mem_singleton.mp hs ▸ List.mem_cons_self)
    · exact h.mono fun s hs => .here (List.mem_cons_of_mem _ hs)

theorem reachesOutside_leaf_iff
    (hleaf : ∀ name inner, Means r g u (.alias name inner) → name ∈ path) :
    ReachesOutside r g path [u] t ↔ t = u := by
  constructor
  · intro h
    induction h with
    | here h => exact List.mem_singleton.mp h
    | inside _ hm hn _ ih =>
      obtain rfl := ih
      exact absurd (hleaf _ _ hm) hn
  · rintro rfl
    exact .here List.mem_cons_self

/-- From a name that is followed, what its definition leads to is reached. -/
theorem reachesOutside_follow_iff (hm : Means r g u (.alias name inner)) (hn : name ∉ path) :
    ReachesOutside r g path [u] t ↔ t = u ∨ ReachesOutside r g (name :: path) inner t := by
  constructor
  · intro h
    induction h with
    | here h => exact Or.inl (List.mem_singleton.mp h)
    | inside _ hm' hn' ht' ih =>
      rcases ih with rfl | ih
      · cases hm.unique hm'
        exact Or.inr (.here ht')
      · exact Or.inr (.again hm (.inside ih.of_cons hm' hn' ht'))
  · rintro (rfl | h)
    · exact .here List.mem_cons_self
    · exact h.of_cons.mono fun s hs => .inside (.here List.mem_cons_self) hm hn hs

/-- A name comes up again: one that is being followed, or one that its own definition leads to. -/
inductive Returns (r : Resolver) (g : Registry) (path : List String) (types : List TypeRef) : Prop
  | followed {t : TypeRef} {name : String} {inner : List TypeRef}
      (h : ReachesOutside r g path types t) (hm : Means r g t (.alias name inner))
      (hn : name ∈ path) : Returns r g path types
  | loop {t t' : TypeRef} {name : String} {inner inner' : List TypeRef}
      (h : ReachesOutside r g path types t) (hm : Means r g t (.alias name inner))
      (h' : ReachesOutside r g path inner t') (hm' : Means r g t' (.alias name inner')) :
      Returns r g path types

/-- The type stands for no others. -/
def IsLeaf (r : Resolver) (g : Registry) (t : TypeRef) : Prop :=
  ∀ name inner, ¬ Means r g t (.alias name inner)

theorem Means.isLeaf (hm : Means r g t m) (h : ∀ name inner, m ≠ .alias name inner) :
    IsLeaf r g t := fun name inner hm' => h name inner (hm.unique hm')

def Meaning.leafTokens : Meaning → List Value
  | .tokens ts => ts
  | .unknown _ => [objectToken]
  | .blank => [objectToken]
  | .any => []
  | .nameless => []
  | .alias _ _ => []

/-- The tokens that are met: those of leaves, and the one for objects where a name comes up
again. -/
def Yields (r : Resolver) (g : Registry) (path : List String) (types : List TypeRef) (x : Value) :
    Prop :=
  (∃ t m, ReachesOutside r g path types t ∧ Means r g t m ∧ x ∈ m.leafTokens) ∨
    x = objectToken ∧ Returns r g path types

/-- The outcome is explained by what is met: it stops for a type that is met, or it has the tokens
that are met and nothing is met that any value is taken for. -/
inductive Accounts (r : Resolver) (g : Registry) (path : List String) (types : List TypeRef) :
    Except Stop (List Value) → Prop
  | unrestricted {t : TypeRef} (h : ReachesOutside r g path types t) (hm : Means r g t .any) :
      Accounts r g path types (.error .unrestricted)
  | nameless {t : TypeRef} (h : ReachesOutside r g path types t) (hm : Means r g t .nameless) :
      Accounts r g path types (.error .nameless)
  | tokens {ts : List Value} (hany : ∀ t, ReachesOutside r g path types t → ¬ Means r g t .any)
      (hx : ∀ x, x ∈ ts ↔ Yields r g path types x) : Accounts r g path types (.ok ts)

/-- From types that lead to the same leaves, and come back to a name alike, the same is met. -/
theorem Accounts.congr (h : Accounts r g path types o)
    (hleaf : ∀ t, IsLeaf r g t →
      (ReachesOutside r g path types t ↔ ReachesOutside r g path' types' t))
    (hreturns : Returns r g path types ↔ Returns r g path' types') :
    Accounts r g path' types' o := by
  cases h with
  | unrestricted h hm => exact .unrestricted ((hleaf _ (hm.isLeaf (by simp))).mp h) hm
  | nameless h hm => exact .nameless ((hleaf _ (hm.isLeaf (by simp))).mp h) hm
  | tokens hany hx =>
    refine .tokens (fun t ht hm => hany t ((hleaf t (hm.isLeaf (by simp))).mpr ht) hm) fun x => ?_
    rw [hx]
    refine or_congr (exists_congr fun t => exists_congr fun m => ?_)
      (and_congr_right fun _ => hreturns)
    refine and_congr_left fun ⟨hm, hx⟩ => hleaf t (hm.isLeaf ?_)
    rintro _ _ rfl
    cases hx

theorem returns_leaf_iff (hleaf : ∀ name inner, Means r g u (.alias name inner) → name ∈ path) :
    Returns r g path [u] ↔ ∃ name inner, Means r g u (.alias name inner) := by
  constructor
  · rintro (⟨h, hm, -⟩ | ⟨h, hm, -, -⟩)
    all_goals
      obtain rfl := (reachesOutside_leaf_iff hleaf).mp h
      exact ⟨_, _, hm⟩
  · rintro ⟨name, inner, hm⟩
    exact .followed (.here List.mem_cons_self) hm (hleaf _ _ hm)

/-- A type that is not followed has its own tokens only. -/
theorem accounts_leaf (hm : Means r g u m)
    (hleaf : ∀ name inner, m = .alias name inner → name ∈ path) (hany : m ≠ .any)
    (hx : ∀ x, x ∈ tokens ↔
      x ∈ m.leafTokens ∨ x = objectToken ∧ ∃ name inner, m = .alias name inner) :
    Accounts r g path [u] (.ok tokens) := by
  have hleaf' : ∀ name inner, Means r g u (.alias name inner) → name ∈ path :=
    fun name inner h => hleaf name inner (hm.unique h)
  have hunique : ∀ m', Means r g u m' ↔ m = m' := fun m' => ⟨hm.unique, fun h => h ▸ hm⟩
  refine .tokens (fun t ht hm' => ?_) fun x => ?_
  · exact hany (hm.unique ((reachesOutside_leaf_iff hleaf').mp ht ▸ hm'))
  · rw [hx, Yields, returns_leaf_iff hleaf']
    simp only [reachesOutside_leaf_iff hleaf', exists_and_left, exists_eq_left, hunique,
      exists_eq_left']

theorem returns_follow_iff (hm : Means r g u (.alias name inner)) (hn : name ∉ path) :
    Returns r g (name :: path) inner ↔ Returns r g path [u] := by
  have hreach : ∀ t, ReachesOutside r g (name :: path) inner t → ReachesOutside r g path [u] t :=
    fun t h => (reachesOutside_follow_iff hm hn).mpr (Or.inr h)
  constructor
  · rintro (⟨h, hm', hn'⟩ | ⟨h, hm', h', hm''⟩)
    · rcases List.mem_cons.mp hn' with rfl | hn'
      · -- The name is met inside its own definition.
        exact .loop (.here List.mem_cons_self) hm h.of_cons hm'
      · exact .followed (hreach _ h) hm' hn'
    · exact .loop (hreach _ h) hm' h'.of_cons hm''
  · rintro (⟨h, hm', hn'⟩ | @⟨t, t', name', inner', _, h, hm', h', hm''⟩)
    · rcases (reachesOutside_follow_iff hm hn).mp h with rfl | h
      · cases hm.unique hm'
        exact absurd hn' hn
      · exact .followed h hm' (List.mem_cons_of_mem _ hn')
    · rcases (reachesOutside_follow_iff hm hn).mp h with rfl | h
      · cases hm.unique hm'
        exact .followed (h'.again hm) hm'' List.mem_cons_self
      · by_cases hname : name' ∈ name :: path
        · exact .followed h hm' hname
        · -- The loop does without the name that is followed, or comes to it.
          rcases h'.cons_or name with h' | ⟨s, inner'', hs, hsm⟩
          · exact .loop h hm' h' hm''
          · have hreached := hs.mono fun v hv => .inside h hm' hname hv
            exact .followed hreached hsm List.mem_cons_self

/-- A type that is followed has what its definition has inside its name. -/
theorem Accounts.follow (hm : Means r g u (.alias name inner)) (hn : name ∉ path)
    (h : Accounts r g (name :: path) inner o) : Accounts r g path [u] o := by
  refine h.congr (fun t hleaf => ?_) (returns_follow_iff hm hn)
  rw [reachesOutside_follow_iff hm hn, or_iff_right]
  rintro rfl
  exact hleaf _ _ hm

theorem returns_cons_iff :
    Returns r g path (u :: types) ↔ Returns r g path [u] ∨ Returns r g path types := by
  constructor
  · rintro (⟨h, hm, hn⟩ | ⟨h, hm, h', hm'⟩)
    · exact (reachesOutside_cons_iff.mp h).imp (.followed · hm hn) (.followed · hm hn)
    · exact (reachesOutside_cons_iff.mp h).imp (.loop · hm h' hm') (.loop · hm h' hm')
  · rintro ((⟨h, hm, hn⟩ | ⟨h, hm, h', hm'⟩) | ⟨h, hm, hn⟩ | ⟨h, hm, h', hm'⟩)
    · exact .followed (reachesOutside_cons_iff.mpr (Or.inl h)) hm hn
    · exact .loop (reachesOutside_cons_iff.mpr (Or.inl h)) hm h' hm'
    · exact .followed (reachesOutside_cons_iff.mpr (Or.inr h)) hm hn
    · exact .loop (reachesOutside_cons_iff.mpr (Or.inr h)) hm h' hm'

theorem yields_cons_iff :
    Yields r g path (u :: types) x ↔ Yields r g path [u] x ∨ Yields r g path types x := by
  have hreach : ∀ t, ReachesOutside r g path (u :: types) t ↔
      ReachesOutside r g path [u] t ∨ ReachesOutside r g path types t :=
    fun t => reachesOutside_cons_iff
  have hreturns : Returns r g path (u :: types) ↔
      Returns r g path [u] ∨ Returns r g path types := returns_cons_iff
  simp only [Yields, hreach, hreturns, or_and_right, exists_or, and_or_left]
  exact or_or_or_comm

theorem accounts_nil : Accounts r g path [] (.ok []) := by
  refine .tokens (fun t ht => (reachesOutside_nil_iff.mp ht).elim) fun x => ?_
  refine iff_of_false List.not_mem_nil ?_
  rintro (⟨t, m, ht, -⟩ | ⟨-, ⟨ht, _, _⟩ | ⟨ht, _, _, _⟩⟩)
  all_goals exact reachesOutside_nil_iff.mp ht

theorem Accounts.cons (h : Accounts r g path [u] o) (h' : Accounts r g path types o') :
    Accounts r g path (u :: types) (o >>= fun ts => o'.map (ts ++ ·)) := by
  have hhead : ∀ {t}, ReachesOutside r g path [u] t → ReachesOutside r g path (u :: types) t :=
    fun h => reachesOutside_cons_iff.mpr (Or.inl h)
  have htail : ∀ {t}, ReachesOutside r g path types t → ReachesOutside r g path (u :: types) t :=
    fun h => reachesOutside_cons_iff.mpr (Or.inr h)
  cases h with
  | unrestricted h hm => exact .unrestricted (hhead h) hm
  | nameless h hm => exact .nameless (hhead h) hm
  | tokens hany hx =>
    cases h' with
    | unrestricted h hm => exact .unrestricted (htail h) hm
    | nameless h hm => exact .nameless (htail h) hm
    | tokens hany' hx' =>
      refine .tokens (fun t ht => ?_) fun x => ?_
      · exact (reachesOutside_cons_iff.mp ht).elim (hany t) (hany' t)
      · rw [List.mem_append, hx, hx']
        exact yields_cons_iff.symm

theorem accounts_spellAll (h : ∀ t ∈ types, Accounts r g path [t] (r.spell g path t)) :
    Accounts r g path types (r.spellAll g path types) := by
  induction types with
  | nil => exact accounts_nil
  | cons t types ih =>
    rw [List.forall_mem_cons] at h
    rw [spellAll_cons]
    exact h.1.cons (ih h.2)

/-- What a type is spelled out as is all that is met without the names being followed. -/
theorem accounts_spell (path : List String) (t : TypeRef) :
    Accounts r g path [t] (r.spell g path t) := by
  refine spell.induct r g (fun path t => Accounts r g path [t] (r.spell g path t))
    ?any ?nameless ?tokens ?unknown ?blank ?again ?follow path t
  case any =>
    intro path t hm
    rw [spell_eq, hm]
    exact .unrestricted (.here List.mem_cons_self) (means_iff.mpr hm)
  case nameless =>
    intro path t hm
    rw [spell_eq, hm]
    exact .nameless (.here List.mem_cons_self) (means_iff.mpr hm)
  case tokens | unknown | blank =>
    intros
    rename_i hm
    rw [spell_eq, hm]
    exact accounts_leaf (means_iff.mpr hm) (by simp) (by simp) (by simp [Meaning.leafTokens])
  case again =>
    intro path t name types hm hn
    simp only [spell_eq, hm, if_pos hn]
    refine accounts_leaf (means_iff.mpr hm) ?_ (by simp) (by simp [Meaning.leafTokens])
    rintro _ _ ⟨⟩
    exact hn
  case follow =>
    intro path t name types hm hn ih
    simp only [spell_eq, hm, if_neg hn]
    exact (accounts_spellAll fun u _ => ih u).follow (means_iff.mpr hm) hn

theorem reachesOutside_iff_reaches : ReachesOutside r g [] types t ↔ r.Reaches g types t := by
  constructor
  · intro h
    induction h with
    | here h => exact .here h
    | inside _ hm _ ht' ih => exact .inside ih (means_iff.mp hm) ht'
  · intro h
    induction h with
    | here h => exact .here h
    | inside _ hm ht' ih => exact .inside ih (means_iff.mpr hm) List.not_mem_nil ht'

/-- A name comes up again just where a cycle is reached. -/
theorem returns_iff_cycle : Returns r g [] types ↔
    ∃ t, r.Reaches g types t ∧ Relation.TransGen (StandsFor r g) t t := by
  constructor
  · rintro (⟨-, -, hn⟩ | @⟨t, t', name, inner, _, h, hm, h', hm'⟩)
    · cases hn
    · have hreached : r.Reaches g types t' := by
        refine (reachesOutside_iff_reaches.mp h').mono fun s hs => ?_
        exact .inside (reachesOutside_iff_reaches.mp h) (means_iff.mp hm) hs
      -- The name that comes up again stands for the same types as before.
      obtain ⟨s, hs, hpath⟩ := reaches_iff.mp (reachesOutside_iff_reaches.mp h')
      have hedge : StandsFor r g t' s :=
        standsFor_iff.mpr ⟨_, _, hm', hm.types_eq hm' ▸ hs⟩
      exact ⟨t', hreached, .head' hedge hpath⟩
  · rintro ⟨t, h, hcycle⟩
    obtain ⟨s, hedge, hpath⟩ := Relation.TransGen.head'_iff.mp hcycle
    obtain ⟨name, inner, hm, hs⟩ := standsFor_iff.mp hedge
    have hback : r.Reaches g inner t := reaches_iff.mpr ⟨s, hs, hpath⟩
    exact .loop (reachesOutside_iff_reaches.mpr h) hm (reachesOutside_iff_reaches.mpr hback) hm

theorem objectToken_same_iff : objectToken.same x = true ↔ x = objectToken := by
  constructor
  · exact Registry.eq_str_of_str_same
  · rintro rfl
    simp [objectToken, Value.same]

/-- The tokens that are met, by the types that they come from. -/
theorem exists_yields_iff : (∃ y, Yields r g [] types y ∧ y.same x = true) ↔
    (∃ t ts, r.Reaches g types t ∧ Means r g t (.tokens ts) ∧ Has ts x) ∨
      x = objectToken ∧
        ((∃ t, r.Reaches g types t ∧ ((∃ name, Means r g t (.unknown name)) ∨ Means r g t .blank)) ∨
          ∃ t, r.Reaches g types t ∧ Relation.TransGen (StandsFor r g) t t) := by
  simp only [Yields, reachesOutside_iff_reaches, returns_iff_cycle]
  constructor
  · rintro ⟨y, ⟨t, m, h, hm, hy⟩ | ⟨rfl, hcycle⟩, hsame⟩
    · cases m with
      | tokens ts => exact Or.inl ⟨t, ts, h, hm, y, hy, hsame⟩
      | unknown name =>
        obtain rfl := List.mem_singleton.mp hy
        exact Or.inr ⟨objectToken_same_iff.mp hsame, Or.inl ⟨t, h, Or.inl ⟨name, hm⟩⟩⟩
      | blank =>
        obtain rfl := List.mem_singleton.mp hy
        exact Or.inr ⟨objectToken_same_iff.mp hsame, Or.inl ⟨t, h, Or.inr hm⟩⟩
      | _ => cases hy
    · exact Or.inr ⟨objectToken_same_iff.mp hsame, Or.inr hcycle⟩
  · rintro (⟨t, ts, h, hm, y, hy, hsame⟩ | ⟨hx, ⟨t, h, ⟨name, hm⟩ | hm⟩ | hcycle⟩)
    · exact ⟨y, Or.inl ⟨t, _, h, hm, hy⟩, hsame⟩
    · exact ⟨_, Or.inl ⟨t, _, h, hm, List.mem_cons_self⟩, objectToken_same_iff.mpr hx⟩
    · exact ⟨_, Or.inl ⟨t, _, h, hm, List.mem_cons_self⟩, objectToken_same_iff.mpr hx⟩
    · exact ⟨_, Or.inr ⟨rfl, hcycle⟩, objectToken_same_iff.mpr hx⟩

/-- Types that lead to named types only resolve to something. -/
theorem succeeds_resolve_of_reaches (htext : ∀ t, r.Reaches g types t → Metadata.IsText t.type) :
    Succeeds (r.resolve g types) := by
  have haccounts : Accounts r g [] types (r.spellAll g [] types) :=
    accounts_spellAll fun t _ => accounts_spell [] t
  rw [resolve, expand_eq_spellAll]
  generalize r.spellAll g [] types = o at haccounts
  cases haccounts with
  | unrestricted => exact succeeds_ok
  | tokens => exact succeeds_ok
  | nameless h hm =>
    obtain ⟨name, hname⟩ := (htext _ (reachesOutside_iff_reaches.mp h)).exists_eq
    cases hm with
    | nameless htype => exact absurd hname (htype name)

/-- Types that lead to one that any value is taken for resolve to nothing. Other types resolve to
the tokens of all basic types that they lead to, and to the token for objects if they lead to a name
that is not defined, to a definition without types, or into a cycle of definitions. -/
theorem resolve_covers (htext : ∀ t, r.Reaches g types t → Metadata.IsText t.type) :
    ((∃ t, r.Reaches g types t ∧ Means r g t .any) → r.resolve g types = .ok []) ∧
    ((∀ t, r.Reaches g types t → ¬ Means r g t .any) →
      ∃ tokens, r.resolve g types = .ok tokens ∧ ∀ x, Has tokens x ↔
        (∃ t ts, r.Reaches g types t ∧ Means r g t (.tokens ts) ∧ Has ts x) ∨
        x = objectToken ∧
          ((∃ t, r.Reaches g types t ∧
              ((∃ name, Means r g t (.unknown name)) ∨ Means r g t .blank)) ∨
            ∃ t, r.Reaches g types t ∧ Relation.TransGen (StandsFor r g) t t)) := by
  have haccounts : Accounts r g [] types (r.spellAll g [] types) :=
    accounts_spellAll fun t _ => accounts_spell [] t
  rw [resolve, expand_eq_spellAll]
  generalize r.spellAll g [] types = o at haccounts
  cases haccounts with
  | unrestricted h hm =>
    refine ⟨fun _ => rfl, fun hany => ?_⟩
    exact absurd hm (hany _ (reachesOutside_iff_reaches.mp h))
  | nameless h hm =>
    obtain ⟨name, hname⟩ := (htext _ (reachesOutside_iff_reaches.mp h)).exists_eq
    cases hm with
    | nameless htype => exact absurd hname (htype name)
  | @tokens ts hany hx =>
    refine ⟨?_, fun _ => ⟨merge [] ts, rfl, fun x => ?_⟩⟩
    · rintro ⟨t, ht, hm⟩
      exact absurd hm (hany t (reachesOutside_iff_reaches.mpr ht))
    · rw [has_merge, or_iff_right, ← exists_yields_iff]
      · simp only [Has, hx]
      · simp [Has]

/-- A cycle of definitions is left with the token for objects, and no type behind it is lost. -/
theorem resolve_covers_shapes :
    (∀ t, standard.Reaches shapes figure t → Metadata.IsText t.type) ∧
      (∀ t, standard.Reaches shapes figure t → ¬ Means standard shapes t .any) ∧
      ∃ tokens, standard.resolve shapes figure = .ok tokens ∧
        Has tokens objectToken ∧ Has tokens stringToken ∧ Has tokens (.str "Number") := by
  obtain ⟨-, hshape, hgroup, hstring, hnumber, hboolean⟩ := meaning_shapes
  have htext : ∀ t, standard.Reaches shapes figure t → Metadata.IsText t.type := by
    intro t h
    obtain ⟨name, -, rfl⟩ := List.mem_map.mp (mem_of_reaches_figure h)
    exact Metadata.isText_str name
  have hany : ∀ t, standard.Reaches shapes figure t → ¬ Means standard shapes t .any := by
    intro t h hm
    have hmem := mem_of_reaches_figure h
    rw [means_iff] at hm
    simp only [List.map_cons, List.map_nil, List.mem_cons, List.not_mem_nil, or_false] at hmem
    rcases hmem with rfl | rfl | rfl | rfl | rfl <;> simp_all
  obtain ⟨tokens, hresolve, hhas⟩ := (resolve_covers htext).2 hany
  have hreach : standard.Reaches shapes figure (typeNamed "Shape") := .here List.mem_cons_self
  have hreach' : standard.Reaches shapes figure (typeNamed "Group") :=
    .inside hreach hshape List.mem_cons_self
  have hcycle : Relation.TransGen (StandsFor standard shapes) (typeNamed "Shape")
      (typeNamed "Shape") := by
    refine .tail (.single (b := typeNamed "Group") ?_) ?_
    · exact standsFor_iff.mpr ⟨_, _, means_iff.mpr hshape, List.mem_cons_self⟩
    · exact standsFor_iff.mpr ⟨_, _, means_iff.mpr hgroup, List.mem_cons_self⟩
  refine ⟨htext, hany, tokens, hresolve, ?_, ?_, ?_⟩
  · exact (hhas _).mpr (Or.inr ⟨rfl, Or.inr ⟨_, hreach, hcycle⟩⟩)
  · refine (hhas _).mpr (Or.inl ⟨typeNamed "string", _, ?_, means_iff.mpr hstring, ?_⟩)
    · exact .inside hreach hshape (by simp)
    · simp [Has, stringToken, Value.same]
  · refine (hhas _).mpr (Or.inl ⟨typeNamed "number", _, ?_, means_iff.mpr hnumber, ?_⟩)
    · exact .inside hreach' hgroup (by simp)
    · simp [Has, Value.same]

end Resolver

end VueWrap
