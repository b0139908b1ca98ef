import VueWrap.Proofs.Metadata.Form
import VueWrap.Proofs.Settings.Fields

/-! # Defaults, a file, and overrides

Under every key the overrides count before the file and the file before the
defaults, where a null of the overrides does not count and one of the file does.
The further settings are those in effect under their own key with all fields
laid over them whose keys name no setting.
-/

namespace VueWrap

open Metadata (field?_cons)

namespace Value

variable {k : String} {fs : List (String × Value)}

theorem field?_eq_none (h : k ∉ fs.map (·.1)) : field? fs k = none := by
  induction fs with
  | nil => rfl
  | cons f fs ih =>
    rw [List.map_cons, List.mem_cons, not_or] at h
    rw [field?_cons, if_neg h.1, ih h.2]

theorem field?_filter_key (p : String → Bool) (fs : List (String × Value)) (k : String) :
    field? (fs.filter fun f => p f.1) k = if p k then field? fs k else none := by
  induction fs with
  | nil => simp [field?]
  | cons f fs ih =>
    obtain ⟨k', v⟩ := f
    by_cases hk : k = k'
    · subst hk
      cases hp : p k <;> simp [field?_cons, hp] at ih ⊢
      exact ih
    · cases hp : p k' <;> simp [field?_cons, hp, hk, ih]

theorem field?_filter_value (p : Value → Bool) (hkeys : (fs.map (·.1)).Nodup) (k : String) :
    field? (fs.filter fun f => p f.2) k = (field? fs k).filter p := by
  induction fs with
  | nil => rfl
  | cons f fs ih =>
    obtain ⟨k', v⟩ := f
    rw [List.map_cons, List.nodup_cons] at hkeys
    by_cases hk : k = k'
    · subst hk
      have hnone := field?_eq_none hkeys.1
      cases hp : p v <;> simp [field?_cons, Option.filter_some, hp, ih hkeys.2, hnone]
    · cases hp : p v <;> simp [field?_cons, hp, hk, ih hkeys.2]

/-- Where fields are laid over others, the later ones are found first. -/
theorem field?_update {more : List (String × Value)} (hkeys : (more.map (·.1)).Nodup) :
    field? (Assoc.update Assoc.sameText fs more) k = (field? more k).or (field? fs k) := by
  simp only [field?, ← Assoc.get?_sameText, Assoc.get?_update Assoc.sameText_iff hkeys]

end Value

namespace Settings

variable {s : Settings} {n n' : Name} {k : String} {v file : Value} {f : String × Value}
  {fs os gs es : List (String × Value)} {t : FileTree} {path : String}

theorem key_injective : Function.Injective Name.key := by
  intro n n' h
  have hname := ofKey?_key n
  rw [h, ofKey?_key] at hname
  exact (Option.some.inj hname).symm

theorem eq_of_ofKey?_eq_some (h : Name.ofKey? k = some n) : n.key = k := by
  simpa using List.find?_some h

theorem get_set (s : Settings) (n n' : Name) (v : Value) :
    (s.set n v).get n' = if n = n' then v else s.get n' := by
  cases n <;> cases n' <;> rfl

theorem get_setKey (s : Settings) (f : String × Value) (n : Name) :
    (s.setKey f).get n = if f.1 = n.key then f.2 else s.get n := by
  by_cases hfurther : f.1 = furtherKey
  · have hne : f.1 ≠ n.key := fun h => key_ne_furtherKey n (h.symm.trans hfurther)
    rw [setKey, if_pos hfurther, if_neg hne]
    cases n <;> rfl
  · rw [setKey, if_neg hfurther]
    cases hname : Name.ofKey? f.1 with
    | none =>
      have hne : f.1 ≠ n.key := by
        intro h
        rw [h, ofKey?_key] at hname
        cases hname
      rw [if_neg hne]
    | some n' =>
      rw [get_set, ← eq_of_ofKey?_eq_some hname]
      simp only [key_injective.eq_iff]

/-- A setting has the value of its key, or the one it had. -/
theorem get_foldl_setKey (hkeys : (fs.map (·.1)).Nodup) :
    (fs.foldl setKey s).get n = (Value.field? fs n.key).getD (s.get n) := by
  induction fs generalizing s with
  | nil => rfl
  | cons f fs ih =>
    rw [List.map_cons, List.nodup_cons] at hkeys
    rw [List.foldl_cons, ih hkeys.2, get_setKey]
    obtain ⟨k, v⟩ := f
    by_cases hk : n.key = k
    · rw [hk, Value.field?_eq_none hkeys.1, field?_cons, if_pos rfl, if_pos rfl]
      rfl
    · rw [field?_cons, if_neg hk, if_neg (Ne.symm hk)]

theorem further_foldl_setKey_defaults (hkeys : (fs.map (·.1)).Nodup) :
    (fs.foldl setKey defaults).further =
      .plain ((Value.field? fs furtherKey).getD (.obj [])) := by
  cases hv : Value.field? fs furtherKey with
  | none =>
    refine further_foldl_setKey (fun f hf hk => ?_) (Or.inr rfl)
    have hsome := Value.lookup_eq_some_of_mem hkeys hf
    rw [hk] at hsome
    cases hv.symm.trans hsome
  | some v =>
    have hmem := Value.mem_of_lookup_eq_some hv
    refine further_foldl_setKey (fun f hf hk => ?_) (Or.inl ⟨_, hmem, rfl⟩)
    have hsome := Value.lookup_eq_some_of_mem hkeys hf
    rw [hk] at hsome
    exact Option.some.inj (hsome.symm.trans hv)

theorem base_obj (es : List (String × Value)) :
    (Further.plain (.obj es)).base = .ok (textKeys es) := by
  cases es <;> rfl

/-- Fields that name no setting are laid over the object of the further settings. -/
theorem ofFields_eq_ok (hkeys : (gs.map (·.1)).Nodup)
    (hes : (Value.field? gs furtherKey).getD (.obj []) = .obj es) :
    ofFields gs = .ok { gs.foldl setKey defaults with
      further := .plain (.obj (Assoc.update Assoc.sameText es (gs.filter fun f => !isKnown f.1))) } := by
  have hfurther := further_foldl_setKey_defaults hkeys
  rw [hes] at hfurther
  simp only [ofFields]
  split
  · rename_i hnone
    rw [hnone]
    exact congrArg Except.ok (by rw [Assoc.update, List.foldl_nil, ← hfurther])
  · have hentries : Assoc.update Value.same (textKeys es)
        (textKeys (gs.filter fun f => !isKnown f.1)) =
          textKeys (Assoc.update Assoc.sameText es (gs.filter fun f => !isKnown f.1)) :=
      Assoc.update_map same_str _ _
    have hmore := asFields?_eq_some_iff.mpr hentries
    rw [hfurther, base_obj]
    show Except.ok _ = _
    congr 2
    rw [Further.ofEntries, ← textKeys, hmore]

def counts : Value → Bool
  | .null => false
  | _ => true

/-- What overrides say of a key, of which a null says nothing. -/
def said (os : List (String × Value)) (k : String) : Option Value :=
  (Value.field? os k).filter counts

/-- What is in effect under a key where the overrides `os` are laid over the fields `fs`. -/
def inEffect (fs os : List (String × Value)) (k : String) : Option Value :=
  (said os k).or (Value.field? fs k)

/-- The settings `s` come from the fields `fs` with the overrides `os`, where the further settings
in effect have the fields `es`. -/
structure Merged (fs os es : List (String × Value)) (s : Settings) : Prop where
  own : ∀ n, s.get n = (inEffect fs os n.key).getD (defaults.get n)
  further : ∃ more, s.further = .plain (.obj more) ∧
    ((es.map (·.1)).Nodup → (more.map (·.1)).Nodup) ∧
    ∀ k, Value.field? more k =
      (if isKnown k then none else inEffect fs os k).or (Value.field? es k)

theorem overriding_obj (os : List (String × Value)) :
    overriding (.obj os) = .ok (os.filter fun f => counts f.2) := by
  cases os <;> rfl

theorem nodup_keys_filter (p : String × Value → Bool) (hkeys : (os.map (·.1)).Nodup) :
    ((os.filter p).map (·.1)).Nodup :=
  hkeys.sublist (List.filter_sublist.map _)

theorem field?_merged (hos : (os.map (·.1)).Nodup) (k : String) :
    Value.field? (Assoc.update Assoc.sameText fs (os.filter fun f => counts f.2)) k =
      inEffect fs os k := by
  rw [Value.field?_update (nodup_keys_filter _ hos), Value.field?_filter_value counts hos]
  rfl

theorem gives_merge (hfs : (fs.map (·.1)).Nodup) (hos : (os.map (·.1)).Nodup)
    (hes : (inEffect fs os furtherKey).getD (.obj []) = .obj es) :
    Gives (merge fs (.obj os)) (Merged fs os es) := by
  rw [merge, overriding_obj]
  show Gives (ofFields _) _
  have hgs := (Assoc.nodup_update Assoc.sameText_iff hfs :
    ((Assoc.update Assoc.sameText fs (os.filter fun f => counts f.2)).map (·.1)).Nodup)
  rw [← field?_merged hos] at hes
  rw [ofFields_eq_ok hgs hes]
  apply gives_ok_iff.mpr
  constructor
  · intro n
    rw [← field?_merged hos, ← get_foldl_setKey hgs]
    cases n <;> rfl
  · refine ⟨_, rfl, Assoc.nodup_update Assoc.sameText_iff, fun k => ?_⟩
    rw [Value.field?_update (nodup_keys_filter _ hgs),
      Value.field?_filter_key fun k => !isKnown k, field?_merged hos]
    cases isKnown k <;> rfl

theorem isKey_of_readScalar {cs rest : List Char} (h : Json.readScalar cs = .ok (v, rest)) :
    v.isKey = true := by
  unfold Json.readScalar at h
  split at h
  · rename_i r hword
    obtain ⟨w, hw, hr⟩ := List.exists_of_findSome?_eq_some hword
    obtain ⟨rest', -, rfl⟩ := Option.map_eq_some_iff.mp hr
    cases h
    have hwords : ∀ w ∈ Json.words, w.2.isKey = true := by decide
    exact hwords w hw
  · unfold Json.readNumber at h
    simp only at h
    split at h
    · cases h
    · split at h
      · split at h
        · cases h
        · cases h
          rfl
      · cases h
        rfl

/-- What is read as an object has every key once. -/
theorem nodup_of_readValue {fuel : Nat} {cs rest : List Char}
    (h : Json.readValue fuel cs = .ok (.obj fs, rest)) : (fs.map (·.1)).Nodup := by
  cases fuel with
  | zero => cases h
  | succ fuel =>
    unfold Json.readValue at h
    split at h
    case h_1 =>
      obtain ⟨r, -, hr⟩ := map_eq_ok_iff.mp h
      cases hr
    case h_2 =>
      split at h
      · cases h
        exact List.nodup_nil
      · obtain ⟨r, -, hr⟩ := map_eq_ok_iff.mp h
        cases hr
        exact Assoc.nodup_update Assoc.sameText_iff List.nodup_nil
    case h_3 =>
      split at h
      · cases h
      · obtain ⟨r, -, hr⟩ := map_eq_ok_iff.mp h
        cases hr
    case h_4 => cases isKey_of_readScalar h

theorem nodup_of_read {text : String} (h : Json.read text = .ok (.obj fs)) :
    (fs.map (·.1)).Nodup := by
  have hall : Json.readAll text.toList = .ok (.obj fs) := by
    unfold Json.read at h
    split at h
    · rename_i v hv
      rw [hv, Except.ok.inj h]
    · cases h
    · cases h
  unfold Json.readAll at hall
  split at hall
  · cases hall
  · split at hall
    · cases hall
    · rename_i v rest hv
      split at hall
      · rw [Except.ok.inj hall] at hv
        exact nodup_of_readValue hv
      · cases hall

/-- The fields of a file are those of the object that its text writes. -/
theorem exists_text_of_readFile (h : readFile t path = .ok fs) :
    ∃ bytes text, t.read (Path.tidy path) = .ok bytes ∧ FileTree.textOf? bytes = some text ∧
      Json.read text = .ok (.obj fs) := by
  unfold readFile at h
  simp only at h
  split at h
  · cases h
  · cases h
  · split at h
    · cases h
    · split at h
      · cases h
      · rename_i bytes hread
        split at h
        · cases h
        · rename_i text htext
          split at h
          · cases h
          · cases h
          · rename_i hjson
            cases h
            exact ⟨bytes, text, hread, htext, hjson⟩
          · cases h

/-- The fields that a file has for settings; it need not be given. -/
inductive FileFields (t : FileTree) : Value → List (String × Value) → Prop
  | none {file : Value} (h : file.isEmpty = true) : FileFields t file []
  | file {path : String} {fs : List (String × Value)} (hpath : path ≠ "")
      (h : readFile t path = .ok fs) : FileFields t (.str path) fs

theorem FileFields.nodup (h : FileFields t file fs) : (fs.map (·.1)).Nodup := by
  cases h with
  | none => exact List.nodup_nil
  | file _ h =>
    obtain ⟨_, _, -, -, hjson⟩ := exists_text_of_readFile h
    exact nodup_of_read hjson

/-- What is loaded is what is in effect under every key. -/
theorem gives_load (h : FileFields t file fs) (hos : (os.map (·.1)).Nodup)
    (hes : (inEffect fs os furtherKey).getD (.obj []) = .obj es) :
    Gives (load t (.obj os) file) (Merged fs os es) := by
  have hmerge := gives_merge h.nodup hos hes
  cases h with
  | none hempty =>
    unfold load
    rw [if_pos hempty]
    exact hmerge
  | @file path fs hpath hread =>
    have hne : (Value.str path).isEmpty = false := by simpa [Value.isEmpty] using hpath
    rw [load, hne, hread]
    exact hmerge

end Settings

end VueWrap
