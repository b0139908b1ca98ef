import VueWrap.Module.Block
import VueWrap.Proofs.Mapping.Correspondence
import VueWrap.Proofs.Resolver.Coverage

/-! # Options that any value is taken for

One unrestricted type leaves an option without constructors, wherever it is reached.
The values that an option is limited to are looked for apart from this, in the types
that the option names itself, so they are checked of any value as well.
-/

namespace VueWrap

open Metadata

namespace TypeRef

variable {t t' : TypeRef} {ts : List TypeRef} {vs vs' : List Value} {limit? : Option Restriction}

def IsString (t : TypeRef) : Prop := ∃ name, t.type = .str name ∧ Text.lower name = "string"

theorem FirstLimit.limits (h : FirstLimit ts t vs) : t ∈ ts ∧ t.Limits vs := by
  induction h with
  | here h => exact ⟨List.mem_cons_self, h⟩
  | later _ _ ih => exact ⟨List.mem_cons_of_mem _ ih.1, ih.2⟩

theorem FirstLimit.unique (h : FirstLimit ts t vs) (h' : FirstLimit ts t' vs') : t = t' := by
  induction h with
  | here h =>
    cases h' with
    | here _ => rfl
    | later hno _ => exact absurd h (hno _)
  | later hno _ ih =>
    cases h' with
    | here h' => exact absurd h' (hno _)
    | later _ rest => exact ih rest

/-- There is no restriction just where the first type with values, if any, is that of strings. -/
theorem Restrict.eq_none_iff (h : Restrict ts limit?) :
    limit? = none ↔ ∀ t vs, FirstLimit ts t vs → t.IsString := by
  cases h with
  | unlimited hno =>
    refine iff_of_true rfl fun t vs hfirst => ?_
    exact absurd hfirst.limits.2 (hno t hfirst.limits.1 vs)
  | strings hfirst hname hstring =>
    refine iff_of_true rfl fun t vs hfirst' => ?_
    rw [hfirst'.unique hfirst]
    exact ⟨_, hname, hstring⟩
  | values hfirst hname hstring =>
    refine iff_of_false (Option.some_ne_none _) fun hall => ?_
    obtain ⟨name, hname', hstring'⟩ := hall _ _ hfirst
    cases hname.symm.trans hname'
    exact hstring hstring'

end TypeRef

namespace Module

variable {p : PropDecl} {limit : Restriction}

theorem constructorText_nil : constructorText [] = some "\x7b\x7d" := rfl

theorem propEntry_of_unlimited (htypes : p.types = []) (h : p.restriction = none) :
    propEntry p = some (text ["    ", p.name.display, ": \x7b\x7d"]) := by
  simp [propEntry, htypes, h, constructorText_nil]

theorem exists_propEntry_of_limited (htypes : p.types = []) (h : p.restriction = some limit) :
    ∃ entry, propEntry p = some entry ∧ entry ≠ text ["    ", p.name.display, ": \x7b\x7d"] ∧
      validator limit <:+: entry := by
  simp only [propEntry, htypes, h, constructorText_nil]
  refine ⟨_, rfl, ?_, _, _, rfl⟩
  simp [line]

end Module

namespace Resolver

variable {r : Resolver} {g : Registry} {t : TypeRef} {types : List TypeRef}

/-- An unrestricted type leaves no tokens, wherever the types lead to it. -/
theorem resolve_of_reaches_any (htext : ∀ t, r.Reaches g types t → IsText t.type)
    (h : r.Reaches g types t) (hm : Means r g t .any) : r.resolve g types = .ok [] := by
  have haccounts : Accounts r g [] types (r.spellAll g [] types) :=
    accounts_spellAll fun t _ => accounts_spell [] t
  rw [resolve, expand_eq_spellAll]
  generalize r.spellAll g [] types = o at haccounts
  cases haccounts with
  | unrestricted _ _ => rfl
  | nameless h' hm' =>
    obtain ⟨name, hname⟩ := (htext _ (reachesOutside_iff_reaches.mp h')).exists_eq
    cases hm' with
    | nameless htype => exact absurd hname (htype name)
  | tokens hany _ => exact absurd hm (hany _ (reachesOutside_iff_reaches.mpr h))

end Resolver

namespace Mapping

open Resolver (Means typeNamed)

variable {r : Resolver} {g : Registry} {o : OptionDecl}

theorem prop_eq_ok {types : List Value} {limit? : Option Restriction}
    (htypes : r.resolve g o.types = .ok types)
    (hlimit : restriction (o.types.filter (·.acceptable.holds)) = .ok limit?) :
    (prop r g o).result = .ok ⟨o.name, types, isArrayOnly types, limit?⟩ := by
  rw [prop, Traced.result_bind, Resolver.result_resolved, htypes]
  show ((liftM (restriction _) : Traced Log.Record _) >>= _).result = _
  rw [Traced.result_bind]
  show (restriction _).bind _ = _
  rw [hlimit]
  rfl

/-- An option that leads to an unrestricted type has no constructors, but it keeps its restriction
and the check of it. -/
theorem prop_of_any (ho : ∀ t ∈ o.types, t.WellFormed)
    (htext : ∀ t, r.Reaches g o.types t → IsText t.type)
    (hany : ∃ t, r.Reaches g o.types t ∧ Means r g t .any) :
    ∃ p, (prop r g o).result = .ok p ∧ p.name = o.name ∧ p.types = [] ∧ p.isArray = false ∧
      TypeRef.Restrict o.types p.restriction ∧
      (p.restriction = none ↔ ∀ t vs, TypeRef.FirstLimit o.types t vs → t.IsString) ∧
      ∃ entry, Module.propEntry p = some entry ∧
        (entry = Module.text ["    ", o.name.display, ": \x7b\x7d"] ↔ p.restriction = none) ∧
        ∀ limit, p.restriction = some limit → Module.validator limit <:+: entry := by
  obtain ⟨t, hreach, hm⟩ := hany
  have hresolve := Resolver.resolve_of_reaches_any htext hreach hm
  obtain ⟨limit?, hlimit⟩ := succeeds_restriction_filter ho
  have hrestrict := givesOnly_restriction ho limit? hlimit
  refine ⟨⟨o.name, [], false, limit?⟩, ?_, rfl, rfl, rfl, hrestrict, hrestrict.eq_none_iff, ?_⟩
  · exact prop_eq_ok hresolve hlimit
  · cases limit? with
    | none =>
      refine ⟨_, Module.propEntry_of_unlimited rfl rfl, iff_of_true rfl rfl, ?_⟩
      rintro _ ⟨⟩
    | some limit =>
      obtain ⟨entry, hentry, hne, hvalidator⟩ := Module.exists_propEntry_of_limited
        (p := ⟨o.name, [], false, some limit⟩) rfl rfl
      refine ⟨entry, hentry, iff_of_false hne (Option.some_ne_none _), ?_⟩
      rintro _ ⟨⟩
      exact hvalidator

/-- Anything that is loose may have any value. -/
def loose : Registry where
  entries := [(.str "Loose", ⟨.str "Loose", [typeNamed "Any"], []⟩)]

/-- An option limited to two numbers, of a loose type. -/
def looseStep : OptionDecl :=
  ⟨.str "step", [⟨.str "Loose", .null⟩, ⟨.str "Number", .arr [.int 1, .int 2]⟩]⟩

theorem meaning_loose :
    Resolver.standard.meaning loose ⟨.str "Loose", .null⟩ = .alias "Loose" [typeNamed "Any"] ∧
      Resolver.standard.meaning loose (typeNamed "Any") = .any ∧
      Resolver.standard.meaning loose ⟨.str "Number", .arr [.int 1, .int 2]⟩ =
        .tokens [.str "Number"] :=
  ⟨rfl, rfl, rfl⟩

theorem mem_of_reaches_looseStep {t : TypeRef}
    (h : Resolver.standard.Reaches loose looseStep.types t) :
    t ∈ typeNamed "Any" :: looseStep.types := by
  obtain ⟨hloose, hany, hnumber⟩ := meaning_loose
  induction h with
  | here h => exact List.mem_cons_of_mem _ h
  | inside _ hm ht' ih =>
    simp only [looseStep, List.mem_cons, List.not_mem_nil, or_false] at ih
    rcases ih with rfl | rfl | rfl
    · cases hany.symm.trans hm
    · cases hloose.symm.trans hm
      rw [List.mem_singleton.mp ht']
      exact List.mem_cons_self
    · cases hnumber.symm.trans hm

theorem wellFormed_looseStep : ∀ t ∈ looseStep.types, t.WellFormed :=
  List.forall_mem_cons.mpr ⟨⟨isText_str _, Or.inl rfl⟩,
    List.forall_mem_singleton.mpr ⟨isText_str _, Or.inr ⟨_, rfl, fun _ _ => trivial⟩⟩⟩

/-- The two numbers stay, though the option is of a type that may have any value. -/
theorem prop_of_any_looseStep :
    (∀ t ∈ looseStep.types, t.WellFormed) ∧
      (∀ t, Resolver.standard.Reaches loose looseStep.types t → IsText t.type) ∧
      (∃ t, Resolver.standard.Reaches loose looseStep.types t ∧ Means .standard loose t .any) ∧
      ∃ p, (prop .standard loose looseStep).result = .ok p ∧ p.types = [] ∧
        p.restriction ≠ none ∧ ∃ entry, Module.propEntry p = some entry ∧
          entry ≠ Module.text ["    ", looseStep.name.display, ": \x7b\x7d"] := by
  obtain ⟨hloose, hany, -⟩ := meaning_loose
  have htext : ∀ t, Resolver.standard.Reaches loose looseStep.types t → IsText t.type := by
    intro t h
    rcases List.mem_cons.mp (mem_of_reaches_looseStep h) with rfl | h
    · exact isText_str _
    · exact (wellFormed_looseStep t h).type
  have hreach : ∃ t, Resolver.standard.Reaches loose looseStep.types t ∧
      Means .standard loose t .any :=
    ⟨typeNamed "Any", .inside (.here List.mem_cons_self) hloose List.mem_cons_self,
      Resolver.means_iff.mpr hany⟩
  obtain ⟨p, hp, -, htypes, -, -, hnone, entry, hentry, hbare, -⟩ :=
    prop_of_any wellFormed_looseStep htext hreach
  have hlimited : p.restriction ≠ none := by
    intro h
    have hnull : ∀ vs, ¬ TypeRef.Limits ⟨.str "Loose", .null⟩ vs := by rintro _ ⟨⟨⟩, -⟩
    have hfirst : TypeRef.FirstLimit looseStep.types ⟨.str "Number", .arr [.int 1, .int 2]⟩
        [.int 1, .int 2] := .later hnull (.here ⟨rfl, List.cons_ne_nil _ _⟩)
    obtain ⟨name, ⟨⟩, hstring⟩ := hnone.mp h _ _ hfirst
    exact absurd hstring (by decide +kernel)
  exact ⟨wellFormed_looseStep, htext, hreach, p, hp, htypes, hlimited, entry, hentry,
    mt hbare.mp hlimited⟩

/-- An option of any value, with a number among its types that is limited. -/
def anyValue : OptionDecl :=
  ⟨.str "value", [typeNamed "any", ⟨.str "Number", .arr [.int 1, .int 2]⟩]⟩

/-- The option is checked for two numbers. -/
theorem anyValue_stays_limited :
    typeNamed "any" ∈ anyValue.types ∧ Means .standard .empty (typeNamed "any") .any ∧
      ∃ p, (prop .standard .empty anyValue).result = .ok p ∧ p.types = [] ∧
        p.restriction = some ⟨"number", [.int 1, .int 2]⟩ ∧
        Module.propEntry p = some (Module.text ["    value: \x7b\n", "      type: \x7b\x7d,\n",
          "      validator: (v) => typeof(v) !== \"number\" || [1, 2].indexOf(v) !== -1\n",
          "    \x7d"]) := by
  have hany : Means .standard .empty (typeNamed "any") .any := Resolver.means_iff.mpr rfl
  have hresolve : Resolver.standard.resolve .empty anyValue.types = .ok [] := by
    rw [anyValue, Resolver.resolve, Resolver.expand, Resolver.expandOne_eq,
      Resolver.means_iff.mp hany]
  have htype : Json.write (.str "number") = "\"number\"" := by decide +kernel
  have hvalues : Json.write (.arr [.int 1, .int 2]) = "[1, 2]" := by decide +kernel
  refine ⟨List.mem_cons_self, hany, ⟨.str "value", [], false, some ⟨"number", [.int 1, .int 2]⟩⟩,
    prop_eq_ok hresolve rfl, rfl, rfl, ?_⟩
  simp [Module.propEntry, Module.constructorText_nil, Module.validator, Module.line, htype, hvalues]

end Mapping

end VueWrap
