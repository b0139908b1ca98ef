import VueWrap.Proofs.Registry
import VueWrap.Proofs.Resolver.Tokens

/-! # What a resolution reaches

Types are reached through the definitions that their names stand for. Resolving
types asks for no definition but those of names that are reached, and of these
for nothing but the names of the types they stand for; so registries that agree
there resolve the types alike.
-/

namespace VueWrap

namespace Resolver

variable {r : Resolver} {g g' : Registry} {t t' : TypeRef} {types types' inner : List TypeRef}
  {name : String} {visiting : List String} {found : List Value}

/-- The types that some types lead to: the types themselves, and those inside the definitions that
reached types stand for. -/
inductive Reaches (r : Resolver) (g : Registry) (types : List TypeRef) : TypeRef → Prop
  | here {t : TypeRef} (h : t ∈ types) : Reaches r g types t
  | inside {t t' : TypeRef} {name : String} {inner : List TypeRef} (h : Reaches r g types t)
      (hm : r.meaning g t = .alias name inner) (ht' : t' ∈ inner) : Reaches r g types t'

theorem Reaches.mono (h : Reaches r g types t) (hsub : ∀ t ∈ types, Reaches r g types' t) :
    Reaches r g types' t := by
  induction h with
  | here h => exact hsub _ h
  | inside _ hm ht' ih => exact .inside ih hm ht'

theorem Reaches.tail (h : Reaches r g types t) (t₀ : TypeRef) : Reaches r g (t₀ :: types) t :=
  h.mono fun _ h => .here (List.mem_cons_of_mem _ h)

theorem Reaches.of_mem (h : Reaches r g [t] t') (ht : t ∈ types) : Reaches r g types t' :=
  h.mono fun _ hs => .here (List.mem_singleton.mp hs ▸ ht)

/-- What a definition leads to is reached from the type that stands for it. -/
theorem Reaches.of_alias (h : Reaches r g inner t') (hm : r.meaning g t = .alias name inner) :
    Reaches r g [t] t' :=
  h.mono fun _ hs => .inside (.here List.mem_cons_self) hm hs

/-- Nothing but the registry can tell what a name means. -/
def Consults (r : Resolver) (name : String) : Prop :=
  Text.lower name ≠ "any" ∧ Assoc.get? Assoc.sameText r.table (Text.lower name) = none

instance (r : Resolver) (name : String) : Decidable (r.Consults name) :=
  inferInstanceAs (Decidable (_ ∧ _))

/-- Meanings that differ at most in what the types of a definition accept. -/
inductive Meaning.Alike : Meaning → Meaning → Prop
  | any : Alike .any .any
  | nameless : Alike .nameless .nameless
  | tokens (ts : List Value) : Alike (.tokens ts) (.tokens ts)
  | unknown (name : String) : Alike (.unknown name) (.unknown name)
  | blank : Alike .blank .blank
  | stands (name : String) {types types' : List TypeRef}
      (h : types.map (·.type) = types'.map (·.type)) :
      Alike (.alias name types) (.alias name types')

/-- Both registries define the name, for types of the same names, or neither does. -/
def AgreeOn (g g' : Registry) (name : String) : Prop :=
  (g.get? (.str name)).map TypeDecl.typeNames = (g'.get? (.str name)).map TypeDecl.typeNames

theorem meaning_congr (h : t'.type = t.type) : r.meaning g t' = r.meaning g t := by
  rw [meaning, meaning, h]

theorem alike_meaningOf (h : r.Consults name → AgreeOn g g' name) :
    Meaning.Alike (r.meaningOf g name) (r.meaningOf g' name) := by
  simp only [meaningOf]
  split
  · exact .any
  · rename_i hany
    split
    · exact .tokens _
    · rename_i htable
      have hagree := h ⟨hany, htable⟩
      unfold AgreeOn at hagree
      cases hd : g.get? (.str name) with
      | none =>
        rw [hd, Option.map_none] at hagree
        rw [Option.map_eq_none_iff.mp hagree.symm]
        exact .unknown name
      | some d =>
        rw [hd, Option.map_some] at hagree
        obtain ⟨d', hd', htypes⟩ := Option.map_eq_some_iff.mp hagree.symm
        rw [hd']
        have hlength : d'.types.isEmpty = d.types.isEmpty := by
          rw [← List.isEmpty_map (f := (·.type)), ← List.isEmpty_map (l := d.types) (f := (·.type))]
          exact congrArg _ htypes
        dsimp only
        rw [hlength]
        split
        · exact .blank
        · exact .stands name htypes.symm

/-- The registries agree on every name that the types lead to, unless it means something without
them. -/
def Agree (r : Resolver) (g g' : Registry) (types : List TypeRef) : Prop :=
  ∀ t name, r.Reaches g types t → t.type = .str name → r.Consults name → AgreeOn g g' name

theorem Agree.alike (h : r.Agree g g' [t]) (htype : t'.type = t.type) :
    Meaning.Alike (r.meaning g t) (r.meaning g' t') := by
  rw [meaning_congr htype]
  unfold meaning
  split
  · rename_i name hname
    exact alike_meaningOf (h t name (.here (List.mem_singleton_self t)) hname)
  · exact .nameless

theorem Agree.meaning_eq (h : r.Agree g g' [t]) (htype : t'.type = t.type)
    (hm : ∀ name inner, r.meaning g t ≠ .alias name inner) :
    r.meaning g' t' = r.meaning g t := by
  have halike := h.alike htype
  generalize r.meaning g' t' = m' at halike
  generalize r.meaning g t = m at halike hm
  cases halike with
  | stands => exact absurd rfl (hm _ _)
  | _ => rfl

theorem Agree.meaning_eq_alias (h : r.Agree g g' [t]) (htype : t'.type = t.type)
    (hm : r.meaning g t = .alias name inner) :
    ∃ inner', r.meaning g' t' = .alias name inner' ∧
      inner'.map (·.type) = inner.map (·.type) := by
  have halike := h.alike htype
  generalize r.meaning g' t' = m' at halike
  rw [hm] at halike
  cases halike with
  | stands _ htypes => exact ⟨_, rfl, htypes.symm⟩

theorem Agree.head (h : r.Agree g g' (t :: types)) : r.Agree g g' [t] :=
  fun u name hu => h u name (hu.of_mem List.mem_cons_self)

theorem Agree.tail (h : r.Agree g g' (t :: types)) : r.Agree g g' types :=
  fun u name hu => h u name (hu.tail t)

theorem Agree.inside (h : r.Agree g g' [t]) (hm : r.meaning g t = .alias name inner) :
    r.Agree g g' inner :=
  fun u n hu => h u n (hu.of_alias hm)

theorem exists_cons_of_map_type_eq (h : types'.map (·.type) = (t :: types).map (·.type)) :
    ∃ t' ts', types' = t' :: ts' ∧ t'.type = t.type ∧
      ts'.map (·.type) = types.map (·.type) := by
  cases types' with
  | nil => cases h
  | cons t' ts' =>
    rw [List.map_cons, List.map_cons, List.cons.injEq] at h
    exact ⟨t', ts', rfl, h.1, h.2⟩

/-- The resolutions go on in lockstep, so the induction is that of the first one. -/
theorem expand_congr (h : r.Agree g g' types) (htypes : types'.map (·.type) = types.map (·.type)) :
    r.expand g' visiting found types' = r.expand g visiting found types := by
  refine expand.induct r g
    (fun visiting t => ∀ t' : TypeRef, r.Agree g g' [t] → t'.type = t.type →
      r.expandOne g' visiting t' = r.expandOne g visiting t)
    (fun visiting found types => ∀ types' : List TypeRef, r.Agree g g' types →
      types'.map (·.type) = types.map (·.type) →
      r.expand g' visiting found types' = r.expand g visiting found types)
    ?any ?nameless ?tokens ?unknown ?blank ?again ?follow ?nil ?stop ?next visiting found types
    types' h htypes
  case any | nameless | tokens | unknown | blank =>
    intros
    rename_i hm t' h htype
    rw [expandOne_eq, expandOne_eq, h.meaning_eq htype (by simp [hm])]
    simp only [hm]
  case again =>
    intro visiting t name types hm hn t' h htype
    obtain ⟨types', hm', -⟩ := h.meaning_eq_alias htype hm
    simp only [expandOne_eq, hm, hm', if_pos hn]
  case follow =>
    intro visiting t name types hm hn ih t' h htype
    obtain ⟨types', hm', htypes⟩ := h.meaning_eq_alias htype hm
    simp only [expandOne_eq, hm, hm', if_neg hn]
    exact ih types' (h.inside hm) htypes
  case nil =>
    intro visiting found types' _ htypes
    rw [List.map_eq_nil_iff.mp htypes, expand, expand]
  case stop =>
    intro visiting found t ts e hone ih types' h htypes
    obtain ⟨t', ts', rfl, htype, -⟩ := exists_cons_of_map_type_eq htypes
    rw [expand, expand, ih t' h.head htype, hone]
  case next =>
    intro visiting found t ts tokens hone ih₁ ih₂ types' h htypes
    obtain ⟨t', ts', rfl, htype, hts⟩ := exists_cons_of_map_type_eq htypes
    rw [expand, expand, ih₁ t' h.head htype, hone]
    exact ih₂ ts' h.tail hts

def Step.unknown? : Step → Option String
  | .leaf (.unknown name) => some name
  | _ => none

theorem unknowns_eq (types : List TypeRef) :
    r.unknowns g types = (r.walk g [] types).steps.filterMap Step.unknown? := rfl

/-- Walks that meet the same undefined names and end for the same reason. -/
structure Walk.Alike (x y : Walk) : Prop where
  unknowns : x.steps.filterMap Step.unknown? = y.steps.filterMap Step.unknown?
  goesOn : x.goesOn = y.goesOn

theorem Walk.Alike.refl (x : Walk) : x.Alike x := ⟨rfl, rfl⟩

theorem walkOne_eq (visiting : List String) (t : TypeRef) :
    r.walkOne g visiting t = match r.meaning g t with
      | .any => ⟨[.leaf .any], false⟩
      | .nameless => ⟨[.leaf .nameless], false⟩
      | .alias name types =>
        if name ∈ visiting then ⟨[.leaf (.alias name types)], true⟩
        else ⟨.enter name :: (r.walk g (name :: visiting) types).steps ++ [.leave name],
          (r.walk g (name :: visiting) types).goesOn⟩
      | m => ⟨[.leaf m], true⟩ := by
  rw [walkOne]
  split <;> rename_i h <;> simp only [h, dite_eq_ite]

theorem walk_alike (h : r.Agree g g' types) (htypes : types'.map (·.type) = types.map (·.type)) :
    (r.walk g' visiting types').Alike (r.walk g visiting types) := by
  refine walk.induct r g
    (fun visiting t => ∀ t' : TypeRef, r.Agree g g' [t] → t'.type = t.type →
      (r.walkOne g' visiting t').Alike (r.walkOne g visiting t))
    (fun visiting types => ∀ types' : List TypeRef, r.Agree g g' types →
      types'.map (·.type) = types.map (·.type) →
      (r.walk g' visiting types').Alike (r.walk g visiting types))
    ?any ?nameless ?again ?follow ?leaf ?nil ?next ?stop visiting types types' h htypes
  case any | nameless =>
    intro visiting t hm t' h htype
    rw [walkOne_eq, walkOne_eq, h.meaning_eq htype (by simp [hm]), hm]
    exact .refl _
  case again =>
    intro visiting t name types hm hn t' h htype
    obtain ⟨types', hm', -⟩ := h.meaning_eq_alias htype hm
    simp only [walkOne_eq, hm, hm', if_pos hn]
    exact ⟨rfl, rfl⟩
  case follow =>
    intro visiting t name types hm hn ih t' h htype
    obtain ⟨types', hm', htypes⟩ := h.meaning_eq_alias htype hm
    obtain ⟨hunknowns, hgoesOn⟩ := ih types' (h.inside hm) htypes
    simp only [walkOne_eq, hm, hm', if_neg hn]
    refine ⟨?_, hgoesOn⟩
    simp only [List.cons_append, List.filterMap_cons, List.filterMap_append, hunknowns]
  case leaf =>
    intro visiting t _ _ halias t' h htype
    rw [walkOne_eq, walkOne_eq, h.meaning_eq htype halias]
    generalize r.meaning g t = m at halias
    rcases m with _ | _ | _ | _ | _ | ⟨name, types⟩
    iterate 5 exact .refl _
    exact absurd rfl (halias name types)
  case nil =>
    intro visiting types' _ htypes
    rw [List.map_eq_nil_iff.mp htypes, walk, walk]
    exact .refl _
  case next =>
    intro visiting t ts first hgoesOn ih₁ ih₂ types' h htypes
    obtain ⟨t', ts', rfl, htype, hts⟩ := exists_cons_of_map_type_eq htypes
    obtain ⟨hunknowns, hfirst⟩ := ih₁ t' h.head htype
    obtain ⟨hunknowns', hrest⟩ := ih₂ ts' h.tail hts
    rw [walk, walk, hfirst, if_pos hgoesOn, if_pos hgoesOn]
    refine ⟨?_, hrest⟩
    simp only [List.filterMap_append, hunknowns, hunknowns']
  case stop =>
    intro visiting t ts first hgoesOn ih types' h htypes
    obtain ⟨t', ts', rfl, htype, -⟩ := exists_cons_of_map_type_eq htypes
    have halike := ih t' h.head htype
    rw [walk, walk, halike.goesOn, if_neg hgoesOn, if_neg hgoesOn]
    exact halike

/-- Registries that agree on what some types lead to resolve them alike, and with the same
records. -/
theorem resolved_congr (h : r.Agree g g' types) : r.resolved g' types = r.resolved g types := by
  have halike : (r.walk g' [] types).Alike (r.walk g [] types) := walk_alike h rfl
  have hunknowns := halike.unknowns
  rw [← unknowns_eq, ← unknowns_eq] at hunknowns
  rw [resolved, resolved, hunknowns, resolve, resolve, expand_congr h rfl]

end Resolver

end VueWrap
