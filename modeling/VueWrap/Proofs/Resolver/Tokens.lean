import VueWrap.Proofs.Assoc
import VueWrap.Proofs.Metadata.Valid
import VueWrap.Resolver

/-! # Tokens of well-formed types

The types of well-formed metadata resolve to texts, whatever their definitions
lead to: undefined names, other names of a type, and definitions that lead back
to themselves.
-/

namespace VueWrap

open Metadata

theorem Metadata.IsText.isKey {v : Value} (h : IsText v) : v.isKey = true := by
  obtain ⟨s⟩ := h
  rfl

namespace Registry

def WellFormed (g : Registry) : Prop := ∀ e ∈ g.entries, e.2.WellFormed

variable {g : Registry} {d : TypeDecl} {ds : List TypeDecl}

theorem WellFormed.insert (hg : g.WellFormed) (hd : d.WellFormed) : (g.insert d).WellFormed := by
  intro e he
  rcases Assoc.mem_put he with he | ⟨-, he⟩
  · exact hg e he
  · rw [he]
    exact hd

theorem WellFormed.get? (hg : g.WellFormed) {name : Value} (h : g.get? name = some d) :
    d.WellFormed := by
  obtain ⟨e, he, rfl⟩ := Assoc.exists_mem_of_get? h
  exact hg e he

theorem wellFormed_foldl_insert (hg : g.WellFormed) (hds : ∀ d ∈ ds, d.WellFormed) :
    (ds.foldl insert g).WellFormed := by
  induction ds generalizing g with
  | nil => exact hg
  | cons d ds ih =>
    rw [List.forall_mem_cons] at hds
    exact ih (hg.insert hds.1) hds.2

theorem gives_ofList (hds : ∀ d ∈ ds, d.WellFormed) : Gives (ofList ds) WellFormed := by
  have hkeys : ds.all (fun d => d.name.isKey) = true :=
    List.all_eq_true.mpr fun d hd => (hds d hd).name.isKey
  rw [ofList, if_pos hkeys]
  refine gives_ok_iff.mpr (wellFormed_foldl_insert ?_ hds)
  exact fun e he => absurd he List.not_mem_nil

end Registry

namespace Resolver

/-- The table gives tokens of a form only. -/
def TokensOf (P : Form) (r : Resolver) : Prop := ∀ e ∈ r.table, ∀ t ∈ e.2, P t

def Textual (r : Resolver) : Prop := r.TokensOf IsText

theorem textual_standard : standard.Textual := by
  simp [Textual, TokensOf, standard, objectToken, arrayToken, functionToken, stringToken]

variable {r : Resolver} {g : Registry} {t : TypeRef} {types : List TypeRef}
  {visiting : List String} {found tokens : List Value} {P : Form}

/-- Resolving ends with tokens of a form, or because any value is taken. -/
inductive Tokenizes (P : Form) : Except Stop (List Value) → Prop
  | tokens {ts : List Value} (h : ∀ t ∈ ts, P t) : Tokenizes P (.ok ts)
  | unrestricted : Tokenizes P (.error .unrestricted)

theorem forall_mem_merge (hf : ∀ t ∈ found, P t) (ht : ∀ t ∈ tokens, P t) :
    ∀ t ∈ merge found tokens, P t := by
  induction tokens generalizing found with
  | nil => exact hf
  | cons token tokens ih =>
    rw [List.forall_mem_cons] at ht
    refine ih ?_ ht.2
    rw [addToken]
    split
    · exact hf
    · intro t hmem
      rcases List.mem_append.mp hmem with hmem | hmem
      · exact hf t hmem
      · rw [List.mem_singleton.mp hmem]
        exact ht.1

theorem meaningOf_ne_nameless (name : String) : r.meaningOf g name ≠ .nameless := by
  intro h
  simp only [meaningOf] at h
  split at h
  · cases h
  · split at h
    · cases h
    · split at h
      · cases h
      · split at h <;> cases h

theorem get?_of_meaningOf_eq_tokens {name : String} (h : r.meaningOf g name = .tokens tokens) :
    Assoc.get? Assoc.sameText r.table (Text.lower name) = some tokens := by
  simp only [meaningOf] at h
  split at h
  · cases h
  · split at h
    · rename_i ts hts
      cases h
      exact hts
    · split at h
      · cases h
      · split at h <;> cases h

theorem meaning_ne_nameless (ht : IsText t.type) : r.meaning g t ≠ .nameless := by
  obtain ⟨name, hname⟩ := ht.exists_eq
  rw [meaning, hname]
  exact meaningOf_ne_nameless name

theorem forall_mem_of_meaning_eq_tokens (hr : r.TokensOf P)
    (h : r.meaning g t = .tokens tokens) : ∀ t ∈ tokens, P t := by
  rw [meaning] at h
  split at h
  · obtain ⟨e, he, rfl⟩ := Assoc.exists_mem_of_get? (get?_of_meaningOf_eq_tokens h)
    exact hr e he
  · cases h

theorem wellFormed_of_meaning_eq_alias (hg : g.WellFormed) {name : String}
    (h : r.meaning g t = .alias name types) : ∀ t ∈ types, t.WellFormed := by
  obtain ⟨d, hd, rfl⟩ := get?_of_meaning_eq_alias r g h
  exact (hg.get? hd).types

theorem expandOne_eq (visiting : List String) (t : TypeRef) :
    r.expandOne g visiting t = match r.meaning g t with
      | .any => .error .unrestricted
      | .nameless => .error .nameless
      | .tokens ts => .ok ts
      | .unknown _ => .ok [objectToken]
      | .blank => .ok [objectToken]
      | .alias name types =>
        if name ∈ visiting then .ok [objectToken] else r.expand g (name :: visiting) [] types := by
  rw [expandOne]
  split <;> rename_i h <;> simp only [h, dite_eq_ite]

/-- Inside definitions a name is followed once, so the induction is that of the resolution. -/
theorem expand_tokenizes (hP : P objectToken) (hr : r.TokensOf P) (hg : g.WellFormed)
    (visiting : List String) (found : List Value) (types : List TypeRef)
    (htypes : ∀ t ∈ types, t.WellFormed) (hfound : ∀ t ∈ found, P t) :
    Tokenizes P (r.expand g visiting found types) := by
  have hobject : ∀ t ∈ [objectToken], P t := List.forall_mem_singleton.mpr hP
  revert htypes hfound
  refine expand.induct r g
    (fun visiting t => t.WellFormed → Tokenizes P (r.expandOne g visiting t))
    (fun visiting found types => (∀ t ∈ types, t.WellFormed) → (∀ t ∈ found, P t) →
      Tokenizes P (r.expand g visiting found types))
    ?any ?nameless ?tokens ?unknown ?blank ?again ?follow ?nil ?stop ?next visiting found types
  case any =>
    intro visiting t hm _
    rw [expandOne_eq, hm]
    exact .unrestricted
  case nameless =>
    intro visiting t hm ht
    exact absurd hm (meaning_ne_nameless ht.type)
  case tokens =>
    intro visiting t ts hm _
    rw [expandOne_eq, hm]
    exact .tokens (forall_mem_of_meaning_eq_tokens hr hm)
  case unknown =>
    intro visiting t name hm _
    rw [expandOne_eq, hm]
    exact .tokens hobject
  case blank =>
    intro visiting t hm _
    rw [expandOne_eq, hm]
    exact .tokens hobject
  case again =>
    intro visiting t name types hm hn _
    simp only [expandOne_eq, hm, if_pos hn]
    exact .tokens hobject
  case follow =>
    intro visiting t name types hm hn ih _
    simp only [expandOne_eq, hm, if_neg hn]
    exact ih (wellFormed_of_meaning_eq_alias hg hm) fun _ h => absurd h List.not_mem_nil
  case nil =>
    intro visiting found _ hfound
    rw [expand]
    exact .tokens hfound
  case stop =>
    intro visiting found t ts e hone ih htypes _
    have h := ih (htypes t List.mem_cons_self)
    rw [hone] at h
    cases h
    rw [expand, hone]
    exact .unrestricted
  case next =>
    intro visiting found t ts tokens hone ih₁ ih₂ htypes hfound
    have h := ih₁ (htypes t List.mem_cons_self)
    rw [hone] at h
    cases h with
    | tokens htokens =>
      rw [expand, hone]
      exact ih₂ (fun t' ht' => htypes t' (List.mem_cons_of_mem t ht'))
        (forall_mem_merge hfound htokens)

/-- Well-formed types resolve to tokens of the form that the table has. -/
theorem gives_resolve_of_tokensOf (hP : P objectToken) (hr : r.TokensOf P) (hg : g.WellFormed)
    (htypes : ∀ t ∈ types, t.WellFormed) : Gives (r.resolve g types) fun ts => ∀ t ∈ ts, P t := by
  have h := expand_tokenizes hP hr hg [] [] types htypes fun _ h => absurd h List.not_mem_nil
  rw [resolve]
  generalize r.expand g [] [] types = result at h
  cases h with
  | tokens h => exact gives_ok_iff.mpr h
  | unrestricted => exact gives_ok_iff.mpr fun _ h => absurd h List.not_mem_nil

/-- Whatever the types are, tokens that they resolve to are of the form that the table has. -/
theorem forall_mem_of_expand_eq_ok (hP : P objectToken) (hr : r.TokensOf P)
    (visiting : List String) (found : List Value) (types : List TypeRef)
    (hfound : ∀ t ∈ found, P t) :
    GivesOnly (r.expand g visiting found types) fun tokens => ∀ t ∈ tokens, P t := by
  have hobject : ∀ t ∈ [objectToken], P t := List.forall_mem_singleton.mpr hP
  revert hfound
  refine expand.induct r g
    (fun visiting t => GivesOnly (r.expandOne g visiting t) fun tokens => ∀ t ∈ tokens, P t)
    (fun visiting found types => (∀ t ∈ found, P t) →
      GivesOnly (r.expand g visiting found types) fun tokens => ∀ t ∈ tokens, P t)
    ?any ?nameless ?tokens ?unknown ?blank ?again ?follow ?nil ?stop ?next visiting found types
  case any | nameless =>
    intro visiting t hm
    rw [expandOne_eq, hm]
    exact givesOnly_error
  case tokens =>
    intro visiting t ts hm
    rw [expandOne_eq, hm]
    exact givesOnly_ok (forall_mem_of_meaning_eq_tokens hr hm)
  case unknown =>
    intro visiting t name hm
    rw [expandOne_eq, hm]
    exact givesOnly_ok hobject
  case blank =>
    intro visiting t hm
    rw [expandOne_eq, hm]
    exact givesOnly_ok hobject
  case again =>
    intro visiting t name types hm hn
    simp only [expandOne_eq, hm, if_pos hn]
    exact givesOnly_ok hobject
  case follow =>
    intro visiting t name types hm hn ih
    simp only [expandOne_eq, hm, if_neg hn]
    exact ih fun _ h => absurd h List.not_mem_nil
  case nil =>
    intro visiting found hfound
    rw [expand]
    exact givesOnly_ok hfound
  case stop =>
    intro visiting found t ts e hone ih _
    rw [expand, hone]
    exact givesOnly_error
  case next =>
    intro visiting found t ts tokens hone ih₁ ih₂ hfound
    rw [expand, hone]
    exact ih₂ (forall_mem_merge hfound (ih₁ tokens hone))

theorem givesOnly_resolve_of_tokensOf (hP : P objectToken) (hr : r.TokensOf P) :
    GivesOnly (r.resolve g types) fun ts => ∀ t ∈ ts, P t := by
  have h := forall_mem_of_expand_eq_ok (g := g) hP hr [] [] types fun _ h =>
    absurd h List.not_mem_nil
  rw [resolve]
  split
  · rename_i hexpand
    exact givesOnly_ok (h _ hexpand)
  · exact givesOnly_ok fun _ h => absurd h List.not_mem_nil
  · exact givesOnly_error

/-- No two tokens are the same. -/
def Distinct (tokens : List Value) : Prop := tokens.Pairwise fun t t' => t.same t' = false

theorem distinct_addToken (h : Distinct tokens) (token : Value) :
    Distinct (addToken tokens token) := by
  rw [addToken]
  split
  · exact h
  · rename_i hnew
    refine List.pairwise_append.mpr ⟨h, List.pairwise_singleton _ _, fun t ht t' ht' => ?_⟩
    obtain rfl := List.mem_singleton.mp ht'
    simpa using fun hsame => hnew (List.any_eq_true.mpr ⟨t, ht, hsame⟩)

theorem distinct_merge (h : Distinct found) (tokens : List Value) :
    Distinct (merge found tokens) := by
  induction tokens generalizing found with
  | nil => exact h
  | cons token tokens ih => exact ih (distinct_addToken h token)

/-- Repetitions are left out at the outermost level, whatever the inner ones give. -/
theorem distinct_of_expand_eq_ok (hfound : Distinct found)
    (h : r.expand g visiting found types = .ok tokens) : Distinct tokens := by
  induction types generalizing found with
  | nil =>
    rw [expand] at h
    cases h
    exact hfound
  | cons t ts ih =>
    rw [expand] at h
    split at h
    · cases h
    · exact ih (distinct_merge hfound _) h

theorem distinct_of_resolve_eq_ok (h : r.resolve g types = .ok tokens) : Distinct tokens := by
  rw [resolve] at h
  split at h
  · rename_i hexpand
    cases h
    exact distinct_of_expand_eq_ok List.Pairwise.nil hexpand
  · cases h
    exact List.Pairwise.nil
  · cases h

end Resolver

end VueWrap
