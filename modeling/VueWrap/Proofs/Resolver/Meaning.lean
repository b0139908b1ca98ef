import Mathlib.Logic.Relation
import VueWrap.Proofs.Resolver.Reach

/-! # The graph of types

What a type means depends on its name alone. Types whose names stand for other
types have edges to these, and all other types are leaves. Following the edges is
how a resolution reaches types.
-/

namespace VueWrap

namespace Resolver

variable {r : Resolver} {g : Registry} {t t' : TypeRef} {types inner : List TypeRef}
  {m m' : Meaning} {name : String}

/-- The meanings of types, told from the table and the registry. -/
inductive Means (r : Resolver) (g : Registry) (t : TypeRef) : Meaning → Prop
  | any {name : String} (htype : t.type = .str name) (hany : Text.lower name = "any") :
      Means r g t .any
  | nameless (htype : ∀ name, t.type ≠ .str name) : Means r g t .nameless
  /-- The table is asked first, by the name in small letters. -/
  | tokens {name : String} {ts : List Value} (htype : t.type = .str name)
      (hany : Text.lower name ≠ "any")
      (htable : Assoc.get? Assoc.sameText r.table (Text.lower name) = some ts) :
      Means r g t (.tokens ts)
  | unknown {name : String} (htype : t.type = .str name) (hname : r.Consults name)
      (hd : g.get? (.str name) = none) : Means r g t (.unknown name)
  | blank {name : String} {d : TypeDecl} (htype : t.type = .str name) (hname : r.Consults name)
      (hd : g.get? (.str name) = some d) (htypes : d.types = []) : Means r g t .blank
  | stands {name : String} {d : TypeDecl} (htype : t.type = .str name) (hname : r.Consults name)
      (hd : g.get? (.str name) = some d) (htypes : d.types ≠ []) :
      Means r g t (.alias name d.types)

theorem means_meaning (r : Resolver) (g : Registry) (t : TypeRef) :
    Means r g t (r.meaning g t) := by
  rw [meaning]
  split
  · rename_i name htype
    simp only [meaningOf]
    split
    · rename_i hany
      exact .any htype hany
    · rename_i hany
      split
      · rename_i ts htable
        exact .tokens htype hany htable
      · rename_i htable
        have hname : r.Consults name := ⟨hany, htable⟩
        split
        · rename_i hd
          exact .unknown htype hname hd
        · rename_i d hd
          split
          · rename_i htypes
            exact .blank htype hname hd (List.isEmpty_iff.mp htypes)
          · rename_i htypes
            exact .stands htype hname hd (mt List.isEmpty_iff.mpr htypes)
  · rename_i htype
    exact .nameless htype

theorem Means.unique (h : Means r g t m) (h' : Means r g t m') : m = m' := by
  cases h <;> cases h' <;> simp_all [Consults]

theorem means_iff : Means r g t m ↔ r.meaning g t = m :=
  ⟨fun h => (means_meaning r g t).unique h, fun h => h ▸ means_meaning r g t⟩

/-- What a name stands for is the same wherever it is met. -/
theorem Means.types_eq (h : Means r g t (.alias name types))
    (h' : Means r g t' (.alias name inner)) : types = inner := by
  cases h with
  | stands _ _ hd => cases h' with
    | stands _ _ hd' => cases hd.symm.trans hd'; rfl

/-- One type leads to another: its name stands for types of which the other is one. -/
inductive StandsFor (r : Resolver) (g : Registry) (t t' : TypeRef) : Prop
  | mk {name : String} {d : TypeDecl} (htype : t.type = .str name) (hname : r.Consults name)
      (hd : g.get? (.str name) = some d) (ht' : t' ∈ d.types) : StandsFor r g t t'

theorem standsFor_iff :
    StandsFor r g t t' ↔ ∃ name types, Means r g t (.alias name types) ∧ t' ∈ types := by
  constructor
  · rintro ⟨htype, hname, hd, ht'⟩
    exact ⟨_, _, .stands htype hname hd (List.ne_nil_of_mem ht'), ht'⟩
  · rintro ⟨_, _, ⟨⟩, ht'⟩
    exact ⟨‹_›, ‹_›, ‹_›, ht'⟩

/-- A type is reached if the edges lead to it from one of the types to begin with. -/
theorem reaches_iff :
    r.Reaches g types t ↔ ∃ s ∈ types, Relation.ReflTransGen (StandsFor r g) s t := by
  constructor
  · intro h
    induction h with
    | here h => exact ⟨_, h, .refl⟩
    | inside _ hm ht' ih =>
      obtain ⟨s, hs, hpath⟩ := ih
      exact ⟨s, hs, hpath.tail (standsFor_iff.mpr ⟨_, _, means_iff.mpr hm, ht'⟩)⟩
  · rintro ⟨s, hs, hpath⟩
    induction hpath with
    | refl => exact .here hs
    | tail _ hedge ih =>
      obtain ⟨_, _, hm, ht'⟩ := standsFor_iff.mp hedge
      exact .inside ih (means_iff.mp hm) ht'

end Resolver

end VueWrap
