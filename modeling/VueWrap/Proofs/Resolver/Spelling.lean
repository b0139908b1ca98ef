import VueWrap.Proofs.Json.Same
import VueWrap.Proofs.Resolver.Meaning

/-! # Types spelled out

Spelling types out follows every definition and lists all tokens that are met, as
often as they are met. Resolving removes repetitions at every level, and that
comes to removing them once from what is spelled out. A name that is never met
again may have been followed or not: its definition is spelled out alike.
-/

namespace VueWrap

namespace Resolver

variable (r : Resolver) (g : Registry)

/-- All tokens of a type inside the definitions of the names `path`: those of a basic type, the
token for objects where there is nothing to follow, and else those of the types that its definition
stands for. Nothing is spelled out where any value is taken. -/
def spell (path : List String) (t : TypeRef) : Except Stop (List Value) :=
  match _h : r.meaning g t with
  | .any => .error .unrestricted
  | .nameless => .error .nameless
  | .tokens ts => .ok ts
  | .unknown _ => .ok [objectToken]
  | .blank => .ok [objectToken]
  | .alias name types =>
    if _hn : name ∈ path then .ok [objectToken]
    else (types.mapM (spell (name :: path))).map List.flatten
termination_by unvisited g path
decreasing_by exact unvisited_lt r g _h _hn

def spellAll (path : List String) (types : List TypeRef) : Except Stop (List Value) :=
  (types.mapM (r.spell g path)).map List.flatten

variable {r g} {path path' : List String} {t : TypeRef} {types types' before after : List TypeRef}
  {found tokens more : List Value} {token x : Value} {name : String} {d : TypeDecl}

theorem spell_eq (path : List String) (t : TypeRef) :
    r.spell g path t = match r.meaning g t with
      | .any => .error .unrestricted
      | .nameless => .error .nameless
      | .tokens ts => .ok ts
      | .unknown _ => .ok [objectToken]
      | .blank => .ok [objectToken]
      | .alias name types =>
        if name ∈ path then .ok [objectToken] else r.spellAll g (name :: path) types := by
  rw [spell]
  split <;> rename_i h <;> simp only [h, dite_eq_ite]
  rfl

theorem spellAll_append (path : List String) (types types' : List TypeRef) :
    r.spellAll g path (types ++ types') = r.spellAll g path types >>= fun ts =>
      (r.spellAll g path types').map (ts ++ ·) := by
  simp only [spellAll, List.mapM_append]
  cases types.mapM (r.spell g path) with
  | error e => rfl
  | ok tss =>
    cases types'.mapM (r.spell g path) with
    | error e => rfl
    | ok tss' => exact congrArg Except.ok List.flatten_append

theorem spellAll_singleton (path : List String) (t : TypeRef) :
    r.spellAll g path [t] = r.spell g path t := by
  rw [spellAll, List.mapM_cons, List.mapM_nil]
  cases r.spell g path t with
  | error e => rfl
  | ok ts => exact congrArg Except.ok (List.append_nil ts)

theorem spellAll_cons (path : List String) (t : TypeRef) (types : List TypeRef) :
    r.spellAll g path (t :: types) = r.spell g path t >>= fun ts =>
      (r.spellAll g path types).map (ts ++ ·) := by
  rw [← List.singleton_append, spellAll_append, spellAll_singleton]

def Has (tokens : List Value) (token : Value) : Prop := ∃ t ∈ tokens, t.same token = true

theorem has_iff_any : Has tokens token ↔ tokens.any (·.same token) = true := by
  rw [Has, List.any_eq_true]

theorem addToken_of_has (h : Has tokens token) : addToken tokens token = tokens :=
  if_pos (has_iff_any.mp h)

theorem addToken_of_not_has (h : ¬ Has tokens token) : addToken tokens token = tokens ++ [token] :=
  if_neg (mt has_iff_any.mpr h)

theorem merge_append (found tokens more : List Value) :
    merge found (tokens ++ more) = merge (merge found tokens) more := List.foldl_append

theorem has_addToken : Has (addToken tokens token) x ↔ Has tokens x ∨ token.same x = true := by
  by_cases h : Has tokens token
  · rw [addToken_of_has h]
    constructor
    · exact Or.inl
    · rintro (hx | hx)
      · exact hx
      · obtain ⟨t, ht, hsame⟩ := h
        exact ⟨t, ht, Value.same_trans hsame hx⟩
  · rw [addToken_of_not_has h]
    simp [Has, or_and_right, exists_or]

theorem has_merge : Has (merge found tokens) x ↔ Has found x ∨ Has tokens x := by
  induction tokens generalizing found with
  | nil => simp [merge, Has]
  | cons token tokens ih =>
    show Has (merge (addToken found token) tokens) x ↔ _
    rw [ih, has_addToken, or_assoc]
    simp [Has]

/-- A token that is left out because it is there already will be there later on. -/
theorem merge_addToken (found tokens : List Value) (token : Value) :
    merge found (addToken tokens token) = addToken (merge found tokens) token := by
  by_cases h : Has tokens token
  · rw [addToken_of_has h, addToken_of_has (has_merge.mpr (Or.inr h))]
  · rw [addToken_of_not_has h, merge_append]
    rfl

/-- Tokens may be put together before they are put to others. -/
theorem merge_merge (found tokens more : List Value) :
    merge found (merge tokens more) = merge (merge found tokens) more := by
  induction more generalizing tokens with
  | nil => rfl
  | cons token more ih =>
    show merge found (merge (addToken tokens token) more) =
      merge (addToken (merge found tokens) token) more
    rw [ih, merge_addToken]

/-- The first of all tokens that are the same. -/
def firsts (tokens : List Value) : List Value :=
  tokens.eraseDupsBy fun later earlier => earlier.same later

theorem loop_eq_merge (tokens found : List Value) :
    List.eraseDupsBy.loop (fun later earlier : Value => earlier.same later) tokens found =
      merge found.reverse tokens := by
  induction tokens generalizing found with
  | nil => rfl
  | cons token tokens ih =>
    have hany : found.any (fun t => t.same token) = found.reverse.any (·.same token) := by simp
    rw [List.eraseDupsBy.loop]
    show _ = merge (addToken found.reverse token) tokens
    rw [addToken, ← hany]
    split <;> rename_i h
    · rw [if_pos h, ih]
    · rw [if_neg (by simp [h]), ih, List.reverse_cons]

/-- Adding tokens one by one keeps the first of those that are the same. -/
theorem merge_nil (tokens : List Value) : merge [] tokens = firsts tokens :=
  (loop_eq_merge tokens []).symm

/-- Repetitions may be removed inside a definition or not: this is seen nowhere outside of it. The
induction is that of the resolution. -/
theorem expand_eq_spellAll (visiting : List String) (found : List Value) (types : List TypeRef) :
    r.expand g visiting found types = (r.spellAll g visiting types).map (merge found) := by
  refine expand.induct r g
    (fun visiting t => ∀ found,
      (r.expandOne g visiting t).map (merge found) = (r.spell g visiting t).map (merge found))
    (fun visiting found types =>
      r.expand g visiting found types = (r.spellAll g visiting types).map (merge found))
    ?any ?nameless ?tokens ?unknown ?blank ?again ?follow ?nil ?stop ?next visiting found types
  case any | nameless | tokens | unknown | blank =>
    intros
    rename_i hm found
    simp only [expandOne_eq, spell_eq, hm]
  case again =>
    intro visiting t name types hm hn found
    simp only [expandOne_eq, spell_eq, hm, if_pos hn]
  case follow =>
    intro visiting t name types hm hn ih found
    simp only [expandOne_eq, spell_eq, hm, if_neg hn, ih]
    cases r.spellAll g (name :: visiting) types with
    | error e => rfl
    | ok ts => exact congrArg Except.ok (merge_merge found [] ts)
  case nil =>
    intro visiting found
    rw [expand]
    rfl
  case stop =>
    intro visiting found t ts e hone ih
    have ht := ih found
    rw [hone] at ht
    rw [expand, hone, spellAll_cons, map_eq_error_iff.mp ht.symm]
    rfl
  case next =>
    intro visiting found t ts tokens hone ih₁ ih₂
    have ht := ih₁ found
    rw [hone] at ht
    obtain ⟨tokens', ht', hmerge⟩ := map_eq_ok_iff.mp ht.symm
    rw [expand, hone, spellAll_cons, ht']
    show r.expand g visiting (merge found tokens) ts = _
    rw [ih₂, ← hmerge]
    cases r.spellAll g visiting ts with
    | error e => rfl
    | ok more => exact congrArg Except.ok (merge_append found tokens' more).symm

/-- Types resolve to what they are spelled out as, every token at its first place only. They resolve
to nothing where nothing is spelled out because any value is taken. -/
theorem resolve_keeps_firsts (r : Resolver) (g : Registry) (types : List TypeRef) :
    r.resolve g types = match r.spellAll g [] types with
      | .ok tokens => .ok (tokens.eraseDupsBy fun later earlier => earlier.same later)
      | .error .unrestricted => .ok []
      | .error .nameless => .error .wrongKind := by
  rw [resolve, expand_eq_spellAll]
  cases r.spellAll g [] types with
  | error e => cases e <;> rfl
  | ok tokens => exact congrArg Except.ok (merge_nil tokens)

theorem mapM_congr {α β ε : Type} {f f' : α → Except ε β} {as : List α}
    (h : ∀ a ∈ as, f a = f' a) : as.mapM f = as.mapM f' := by
  induction as with
  | nil => rfl
  | cons a as ih =>
    rw [List.forall_mem_cons] at h
    rw [List.mapM_cons, List.mapM_cons, h.1, ih h.2]

/-- Of the names being followed only those matter that are met. -/
theorem spell_congr (path : List String) (t : TypeRef) : ∀ path' : List String,
    (∀ u name, r.Reaches g [t] u → u.type = .str name → (name ∈ path ↔ name ∈ path')) →
      r.spell g path t = r.spell g path' t := by
  refine spell.induct r g (fun path t => ∀ path' : List String,
    (∀ u name, r.Reaches g [t] u → u.type = .str name → (name ∈ path ↔ name ∈ path')) →
      r.spell g path t = r.spell g path' t)
    ?any ?nameless ?tokens ?unknown ?blank ?again ?follow path t
  case any | nameless | tokens | unknown | blank =>
    intros
    rename_i hm path' _
    simp only [spell_eq, hm]
  case again =>
    intro path t name types hm hn path' h
    cases means_iff.mpr hm with
    | stands htype =>
      have hn' := (h t name (.here List.mem_cons_self) htype).mp hn
      simp only [spell_eq, hm, if_pos hn, if_pos hn']
  case follow =>
    intro path t name types hm hn ih path' h
    cases means_iff.mpr hm with
    | stands htype =>
      have hn' := mt (h t name (.here List.mem_cons_self) htype).mpr hn
      simp only [spell_eq, hm, if_neg hn, if_neg hn', spellAll]
      rw [mapM_congr fun u hu => ih u (name :: path') fun v n hv hvtype => ?_]
      have hreach : r.Reaches g [t] v := (hv.of_mem hu).of_alias hm
      rw [List.mem_cons, List.mem_cons, h v n hreach hvtype]

/-- A type may be replaced by the types that it stands for, unless they lead back to its name. -/
theorem resolve_in_place (htype : t.type = .str name) (hname : r.Consults name)
    (hd : g.get? (.str name) = some d) (htypes : d.types ≠ [])
    (haway : ∀ u, r.Reaches g d.types u → u.type ≠ .str name) (before after : List TypeRef) :
    r.expand g [] [] (before ++ t :: after) = r.expand g [] [] (before ++ d.types ++ after) ∧
      r.resolve g (before ++ t :: after) = r.resolve g (before ++ d.types ++ after) := by
  have hm : r.meaning g t = .alias name d.types := means_iff.mp (.stands htype hname hd htypes)
  have hspell : r.spellAll g [] [t] = r.spellAll g [] d.types := by
    rw [spellAll_singleton, spell_eq, hm]
    show r.spellAll g [name] d.types = _
    refine congrArg (Except.map List.flatten) (mapM_congr fun u hu => ?_)
    refine spell_congr _ _ _ fun v n hv hvtype => ?_
    have hne : n ≠ name := by
      rintro rfl
      refine haway v (hv.mono fun w hw => ?_) hvtype
      exact .here (List.mem_singleton.mp hw ▸ hu)
    simp [hne]
  have hall : r.spellAll g [] (before ++ t :: after) =
      r.spellAll g [] (before ++ d.types ++ after) := by
    rw [← List.singleton_append, ← List.append_assoc, spellAll_append, spellAll_append _ before,
      hspell, ← spellAll_append, ← spellAll_append]
  have hexpand : r.expand g [] [] (before ++ t :: after) =
      r.expand g [] [] (before ++ d.types ++ after) := by
    rw [expand_eq_spellAll, expand_eq_spellAll, hall]
  exact ⟨hexpand, by rw [resolve, resolve, hexpand]⟩

def typeNamed (name : String) : TypeRef := ⟨.str name, .null⟩

def figure : List TypeRef := [typeNamed "Shape", typeNamed "boolean"]

/-- Figures are shapes, and shapes and groups of them lead into each other. -/
def shapes : Registry where
  entries :=
    [(.str "Figure", ⟨.str "Figure", figure, []⟩),
      (.str "Shape", ⟨.str "Shape", [typeNamed "Group", typeNamed "string"], []⟩),
      (.str "Group", ⟨.str "Group", [typeNamed "Shape", typeNamed "number"], []⟩)]

theorem meaning_shapes :
    standard.meaning shapes (typeNamed "Figure") = .alias "Figure" figure ∧
      standard.meaning shapes (typeNamed "Shape") =
        .alias "Shape" [typeNamed "Group", typeNamed "string"] ∧
      standard.meaning shapes (typeNamed "Group") =
        .alias "Group" [typeNamed "Shape", typeNamed "number"] ∧
      standard.meaning shapes (typeNamed "string") = .tokens [stringToken] ∧
      standard.meaning shapes (typeNamed "number") = .tokens [.str "Number"] ∧
      standard.meaning shapes (typeNamed "boolean") = .tokens [.str "Boolean"] :=
  ⟨rfl, rfl, rfl, rfl, rfl, rfl⟩

theorem mem_of_reaches_figure (h : standard.Reaches shapes figure t) :
    t ∈ ["Shape", "Group", "string", "number", "boolean"].map typeNamed := by
  obtain ⟨-, hshape, hgroup, hstring, hnumber, hboolean⟩ := meaning_shapes
  induction h with
  | here h =>
    simp only [figure, List.mem_cons, List.not_mem_nil, or_false] at h
    rcases h with rfl | rfl <;> simp
  | @inside t t' name inner _ hm ht' ih =>
    simp only [List.map_cons, List.map_nil, List.mem_cons, List.not_mem_nil, or_false] at ih
    rcases ih with rfl | rfl | rfl | rfl | rfl
    · cases hshape.symm.trans hm
      simp only [List.mem_cons, List.not_mem_nil, or_false] at ht'
      rcases ht' with rfl | rfl <;> simp
    · cases hgroup.symm.trans hm
      simp only [List.mem_cons, List.not_mem_nil, or_false] at ht'
      rcases ht' with rfl | rfl <;> simp
    · cases hstring.symm.trans hm
    · cases hnumber.symm.trans hm
    · cases hboolean.symm.trans hm

/-- A figure may be replaced by what it stands for, though there is a cycle behind it. -/
theorem resolve_figure_in_place :
    (∀ t, standard.Reaches shapes figure t → t.type ≠ .str "Figure") ∧
      standard.expand shapes [] [] [typeNamed "date", typeNamed "Figure", typeNamed "Shape"] =
        standard.expand shapes [] []
          [typeNamed "date", typeNamed "Shape", typeNamed "boolean", typeNamed "Shape"] ∧
      standard.resolve shapes [typeNamed "date", typeNamed "Figure", typeNamed "Shape"] =
        standard.resolve shapes
          [typeNamed "date", typeNamed "Shape", typeNamed "boolean", typeNamed "Shape"] := by
  have haway : ∀ t, standard.Reaches shapes figure t → t.type ≠ .str "Figure" := by
    intro t h
    obtain ⟨name, hname, rfl⟩ := List.mem_map.mp (mem_of_reaches_figure h)
    rintro ⟨⟩
    simp at hname
  have hname : standard.Consults "Figure" := by decide +kernel
  have hd : shapes.get? (.str "Figure") = some ⟨.str "Figure", figure, []⟩ := rfl
  exact ⟨haway, resolve_in_place rfl hname hd (List.cons_ne_nil _ _) haway [typeNamed "date"]
    [typeNamed "Shape"]⟩

end Resolver

end VueWrap
