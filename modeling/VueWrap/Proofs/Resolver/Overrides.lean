import VueWrap.Proofs.Resolver.Coverage

/-! # Overrides act where they are named

The table of a resolver is asked by names in small letters. So an override counts for
every name that has its small form, and of several overrides with one small form the last
one counts. Resolving asks for no names but those that types lead to, and where none of
them is overridden, overrides do not show.
-/

namespace VueWrap

namespace Resolver

variable {r r' : Resolver} {g : Registry} {t : TypeRef} {types : List TypeRef} {name key : String}
  {fs after : List (String × Value)} {f : String × Value} {tokens : List Value}
  {visiting : List String} {found : List Value}

theorem meaning_congr_table (htype : t.type = .str name)
    (h : Assoc.get? Assoc.sameText r'.table (Text.lower name) =
      Assoc.get? Assoc.sameText r.table (Text.lower name)) : r'.meaning g t = r.meaning g t := by
  simp only [meaning, htype, meaningOf, h]

/-- What a type is spelled out as depends on the meanings of the types that it leads to. The
induction is that of the first resolver, and both follow the same definitions. -/
theorem spell_congr_meaning (path : List String) (t : TypeRef) :
    (∀ u, r.Reaches g [t] u → r'.meaning g u = r.meaning g u) →
      r'.spell g path t = r.spell g path t := by
  refine spell.induct r g (fun path t => (∀ u, r.Reaches g [t] u → r'.meaning g u = r.meaning g u) →
      r'.spell g path t = r.spell g path t)
    ?any ?nameless ?tokens ?unknown ?blank ?again ?follow path t
  case any | nameless | tokens | unknown | blank =>
    intros
    rename_i hm h
    simp only [spell_eq, h _ (.here List.mem_cons_self), hm]
  case again =>
    intro path t name types hm hn h
    simp only [spell_eq, h t (.here List.mem_cons_self), hm, if_pos hn]
  case follow =>
    intro path t name types hm hn ih h
    simp only [spell_eq, h t (.here List.mem_cons_self), hm, if_neg hn, spellAll]
    rw [mapM_congr fun u hu => ih u fun v hv => h v ((hv.of_mem hu).of_alias hm)]

theorem resolve_congr_meaning (h : ∀ u, r.Reaches g types u → r'.meaning g u = r.meaning g u) :
    r'.resolve g types = r.resolve g types := by
  have hspell : ∀ t ∈ types, r'.spell g [] t = r.spell g [] t := fun t ht =>
    spell_congr_meaning [] t fun u hu => h u (hu.of_mem ht)
  rw [resolve, resolve, expand_eq_spellAll, expand_eq_spellAll, spellAll, spellAll,
    mapM_congr hspell]

theorem resolve_of_meaning_any (hm : r.meaning g t = .any) : r.resolve g [t] = .ok [] := by
  rw [resolve, expand_eq_spellAll, spellAll_singleton, spell_eq, hm]
  rfl

theorem resolve_of_meaning_tokens (hm : r.meaning g t = .tokens tokens) :
    r.resolve g [t] = .ok (firsts tokens) := by
  rw [resolve, expand_eq_spellAll, spellAll_singleton, spell_eq, hm]
  exact congrArg Except.ok (merge_nil tokens)

/-- The entry of an override whose tokens can be run through. -/
def entryOf (f : String × Value) : String × List Value := (Text.lower f.1, f.2.items?.getD [])

def overridden (fs : List (String × Value)) : Resolver where
  table := Assoc.update Assoc.sameText standard.table (fs.map entryOf)

theorem withOverrides_eq (hfs : ∀ f ∈ fs, ∃ tokens, f.2.items? = some tokens) :
    withOverrides (.obj fs) = .ok (overridden fs) := by
  have hentries : fs.mapM override = .ok (fs.map entryOf) := by
    induction fs with
    | nil => rfl
    | cons f fs ih =>
      obtain ⟨⟨tokens, hf⟩, hrest⟩ := List.forall_mem_cons.mp hfs
      have hone : override f = .ok (entryOf f) := by simp [override, entryOf, hf]
      rw [List.mapM_cons, hone, ih hrest]
      rfl
  cases fs with
  | nil => rfl
  | cons f fs =>
    rw [withOverrides, if_neg (by simp [Value.isEmpty])]
    simp only [hentries]
    rfl

theorem apart_entryOf (h : Text.lower f.1 ≠ key) :
    Assoc.Apart Assoc.sameText (entryOf f).1 key :=
  Assoc.apart_of_ne Assoc.sameText_iff (Ne.symm h)

/-- A name that is not overridden means what it does without overrides. -/
theorem get?_overridden_of_ne (h : ∀ f ∈ fs, Text.lower f.1 ≠ key) :
    Assoc.get? Assoc.sameText (overridden fs).table key =
      Assoc.get? Assoc.sameText standard.table key := by
  refine Assoc.get?_update_of_apart fun e he => ?_
  obtain ⟨f, hf, rfl⟩ := List.mem_map.mp he
  exact apart_entryOf (h f hf)

/-- Of the overrides of a name the last one counts. -/
theorem get?_overridden_last (before : List (String × Value)) (hf : f.2.items? = some tokens)
    (hkey : Text.lower f.1 = key) (h : ∀ f' ∈ after, Text.lower f'.1 ≠ key) :
    Assoc.get? Assoc.sameText (overridden (before ++ f :: after)).table key = some tokens := by
  have hentry : entryOf f = (key, tokens) := by simp [entryOf, hf, hkey]
  rw [overridden, List.map_append, List.map_cons, hentry]
  refine Assoc.get?_update_last ((Assoc.sameText_iff key key).mpr rfl) (fun e he => ?_) _ _ _
  obtain ⟨f', hf', rfl⟩ := List.mem_map.mp he
  exact apart_entryOf (h f' hf')

/-- Overrides whose tokens can be run through make a resolver. It takes any value for the
unrestricted type, as before; it gives another name that is overridden the tokens of its last
override, each once, whatever the name is defined as; and types that lead to no overridden name
resolve as they do without overrides. -/
theorem overrides_act_where_named (fs : List (String × Value))
    (hfs : ∀ f ∈ fs, ∃ tokens, f.2.items? = some tokens) :
    ∃ r, withOverrides (.obj fs) = .ok r ∧
      (∀ g t name, t.type = .str name → Text.lower name = "any" → r.resolve g [t] = .ok []) ∧
      (∀ g t name before f after tokens, t.type = .str name → Text.lower name ≠ "any" →
        fs = before ++ f :: after → Text.lower f.1 = Text.lower name →
        (∀ f' ∈ after, Text.lower f'.1 ≠ Text.lower name) → f.2.items? = some tokens →
          r.resolve g [t] = .ok (tokens.eraseDupsBy fun later earlier => earlier.same later)) ∧
      ∀ g types,
        (∀ t, standard.Reaches g types t →
          ∃ name, t.type = .str name ∧ ∀ f ∈ fs, Text.lower f.1 ≠ Text.lower name) →
        ∃ tokens, standard.resolve g types = .ok tokens ∧ r.resolve g types = .ok tokens := by
  refine ⟨overridden fs, withOverrides_eq hfs, ?_, ?_, ?_⟩
  · intro g t name htype hany
    exact resolve_of_meaning_any (means_iff.mp (.any htype hany))
  · rintro g t name before f after tokens htype hany rfl hkey hafter hf
    have htable := get?_overridden_last before hf hkey hafter
    exact resolve_of_meaning_tokens (means_iff.mp (.tokens htype hany htable))
  · intro g types hnames
    have htext : ∀ t, standard.Reaches g types t → Metadata.IsText t.type := by
      intro t ht
      obtain ⟨name, htype, -⟩ := hnames t ht
      exact htype ▸ Metadata.isText_str name
    obtain ⟨tokens, htokens⟩ := succeeds_resolve_of_reaches htext
    refine ⟨tokens, htokens, ?_⟩
    rw [← htokens]
    refine resolve_congr_meaning fun u hu => ?_
    obtain ⟨name, htype, hne⟩ := hnames u hu
    exact meaning_congr_table htype (get?_overridden_of_ne hne)

def figureOverrides : List (String × Value) :=
  [("figure", .arr [.str "Date"]), ("FIGURE", .arr [stringToken, .str "Date", stringToken])]

/-- Figures have the tokens of their last override, though they are defined as shapes, and what they
are defined as resolves as before. -/
theorem overrides_act_on_figure :
    (∀ f ∈ figureOverrides, ∃ tokens, f.2.items? = some tokens) ∧
      ∃ r, withOverrides (.obj figureOverrides) = .ok r ∧
        r.resolve shapes [typeNamed "Figure"] = .ok [stringToken, .str "Date"] ∧
        ∃ tokens, standard.resolve shapes figure = .ok tokens ∧
          r.resolve shapes figure = .ok tokens := by
  have hfs : ∀ f ∈ figureOverrides, ∃ tokens, f.2.items? = some tokens := by
    simp [figureOverrides, Value.items?]
  have hlower : Text.lower "Figure" = "figure" ∧ Text.lower "FIGURE" = "figure" ∧
      Text.lower "figure" = "figure" := by decide +kernel
  obtain ⟨r, hr, -, hlast, helse⟩ := overrides_act_where_named figureOverrides hfs
  refine ⟨hfs, r, hr, ?_, helse shapes figure fun t ht => ?_⟩
  · have htokens := hlast shapes (typeNamed "Figure") "Figure" (figureOverrides.take 1)
      ("FIGURE", .arr [stringToken, .str "Date", stringToken]) [] _ rfl (by simp [hlower]) rfl
      (by simp [hlower]) (by simp) rfl
    rw [htokens]
    simp [stringToken, List.eraseDupsBy, List.eraseDupsBy.loop, Value.same]
  · obtain ⟨name, hname, rfl⟩ := List.mem_map.mp (mem_of_reaches_figure ht)
    refine ⟨name, rfl, ?_⟩
    have hother : ∀ n ∈ ["Shape", "Group", "string", "number", "boolean"],
        "figure" ≠ Text.lower n := by decide +kernel
    simpa [figureOverrides, hlower] using hother name hname

end Resolver

end VueWrap
