import VueWrap.Proofs.Assoc
import VueWrap.Registry
import VueWrap.Resolver

/-! # What a registry knows of a list of definitions

A registry that is built from a list finds under every name the last definition
of that name. What the list holds besides, and in which order, does not show.
-/

namespace VueWrap

def TypeDecl.typeNames (d : TypeDecl) : List Value := d.types.map (·.type)

namespace Registry

variable {g : Registry} {d : TypeDecl} {ds ds' before after : List TypeDecl} {name : String}

theorem eq_str_of_str_same {v : Value} {s : String} (h : (Value.str s).same v = true) :
    v = .str s := by
  cases v <;> simp_all [Value.same, Value.number?]

def isNamed (name : String) (d : TypeDecl) : Bool := d.name.same (.str name)

theorem isNamed_iff : isNamed name d = true ↔ d.name = .str name := by
  refine ⟨Resolver.eq_str_of_same, fun h => ?_⟩
  rw [isNamed, h]
  simp [Value.same]

def lastNamed (ds : List TypeDecl) (name : String) : Option TypeDecl :=
  (ds.filter (isNamed name)).getLast?

theorem lastNamed_append (before after : List TypeDecl) (name : String) :
    lastNamed (before ++ after) name = (lastNamed after name).or (lastNamed before name) := by
  rw [lastNamed, List.filter_append, List.getLast?_append]
  rfl

theorem lastNamed_singleton (d : TypeDecl) (name : String) :
    lastNamed [d] name = if isNamed name d then some d else none := by
  rw [lastNamed, List.filter_cons]
  split <;> rfl

theorem lastNamed_insert (before after : List TypeDecl) (d : TypeDecl) (name : String) :
    lastNamed (before ++ d :: after) name = (lastNamed after name).or
      ((if isNamed name d then some d else none).or (lastNamed before name)) := by
  rw [lastNamed_append, ← List.singleton_append, lastNamed_append, lastNamed_singleton,
    Option.or_assoc]

theorem isSome_lastNamed (hd : d ∈ ds) (hname : isNamed name d = true) :
    (lastNamed ds name).isSome = true := by
  rw [lastNamed, List.getLast?_isSome]
  exact List.ne_nil_of_mem (List.mem_filter.mpr ⟨hd, hname⟩)

def build (ds : List TypeDecl) : Registry := ds.foldl insert empty

theorem eq_build_of_ofList (h : ofList ds = .ok g) : g = build ds := by
  unfold ofList at h
  split at h
  · exact (Except.ok.inj h).symm
  · cases h

theorem apart_of_not_isNamed (h : ¬ isNamed name d = true) :
    Assoc.Apart Value.same d.name (.str name) where
  not_same := h
  not_both := by
    intro v hv hname
    obtain rfl := Resolver.eq_str_of_same hname
    exact h (isNamed_iff.mpr (eq_str_of_str_same hv))

/-- A definition takes the place of those of its name, and of no others. -/
theorem get?_insert (g : Registry) (d : TypeDecl) (name : String) :
    (g.insert d).get? (.str name) = if isNamed name d then some d else g.get? (.str name) := by
  obtain ⟨es⟩ := g
  show Assoc.get? _ (Assoc.put _ es d.name d) _ = ite _ _ (Assoc.get? _ es _)
  split
  · rename_i hname
    rw [isNamed_iff.mp hname]
    exact Assoc.get?_put_self (by simp [Value.same]) es d
  · rename_i hname
    exact Assoc.get?_put_of_apart (apart_of_not_isNamed hname) es d

theorem get?_foldl_insert (g : Registry) (ds : List TypeDecl) (name : String) :
    (ds.foldl insert g).get? (.str name) = (lastNamed ds name).or (g.get? (.str name)) := by
  induction ds generalizing g with
  | nil => rfl
  | cons d ds ih =>
    rw [List.foldl_cons, ih, get?_insert, ← List.singleton_append, lastNamed_append,
      lastNamed_singleton, Option.or_assoc]
    cases isNamed name d <;> rfl

/-- Under every name the last definition is found. -/
theorem get?_build (ds : List TypeDecl) (name : String) :
    (build ds).get? (.str name) = lastNamed ds name := by
  rw [build, get?_foldl_insert]
  exact Option.or_none

end Registry

end VueWrap
