import VueWrap.Proofs.Assoc
import VueWrap.Proofs.Json.Same
import VueWrap.Proofs.Outcome
import VueWrap.Settings.Save

/-! # Settings as fields

Settings are saved as their own fields, over which the further ones are laid, and
fields are taken for settings by their keys. Further settings come back as they
were unless one of them has the key of a setting.
-/

namespace VueWrap.Settings

variable {s s' : Settings} {n : Name} {v w : Value} {k : String} {f : String × Value}
  {fs gs : List (String × Value)} {es : List (Value × Value)}

def own (s : Settings) : List (String × Value) := Name.all.map fun n => (n.key, s.get n)

/-- The fields that settings with the further ones `fs` are saved as. -/
def saved (s : Settings) (fs : List (String × Value)) : List (String × Value) :=
  Assoc.update Assoc.sameText s.own fs

def textKeys (fs : List (String × Value)) : List (Value × Value) := fs.map fun f => (.str f.1, f.2)

theorem same_str (a b : String) : Value.same (.str a) (.str b) = Assoc.sameText a b := by
  rw [Value.same, Assoc.sameText]

theorem entries_eq (h : s.further = .plain (.obj fs)) :
    s.entries = .ok (textKeys (s.saved fs)) := by
  rw [entries, h, saved, textKeys, ← Assoc.update_map same_str]
  rfl

theorem textOf_textKeys (fs : List (String × Value)) :
    textOf (textKeys fs) = Json.printBlock 2 (.obj fs) := by
  have hkeys : (textKeys fs).map (fun e => (keyText e.1, e.2)) = fs := by
    rw [textKeys, List.map_map]
    exact List.map_id fs
  rw [textOf, hkeys]

theorem nodup_own (s : Settings) : (s.own.map (·.1)).Nodup := by
  have hkeys : s.own.map (·.1) = Name.all.map Name.key := by
    rw [own, List.map_map]
    rfl
  rw [hkeys]
  decide

theorem nodup_saved (s : Settings) (fs : List (String × Value)) :
    ((s.saved fs).map (·.1)).Nodup :=
  Assoc.nodup_update Assoc.sameText_iff s.nodup_own

theorem ofKey?_key (n : Name) : Name.ofKey? n.key = some n := by
  cases n <;> decide

theorem isKnown_key (n : Name) : isKnown n.key = true := by
  rw [isKnown, ofKey?_key, Option.isSome_some, Bool.or_true]

theorem key_ne_furtherKey (n : Name) : n.key ≠ furtherKey := by
  cases n <;> decide

theorem setKey_key (s : Settings) (n : Name) (v : Value) : s.setKey (n.key, v) = s.set n v := by
  rw [setKey, if_neg (key_ne_furtherKey n), ofKey?_key]

theorem setKey_of_not_isKnown (h : isKnown f.1 = false) : s.setKey f = s := by
  simp only [isKnown, Bool.or_eq_false_iff, decide_eq_false_iff_not] at h
  have hnone : Name.ofKey? f.1 = none := by simpa using h.2
  rw [setKey, if_neg h.1, hnone]

theorem foldl_setKey_of_not_isKnown (h : ∀ f ∈ fs, isKnown f.1 = false) :
    fs.foldl setKey s = s := by
  induction fs with
  | nil => rfl
  | cons f fs ih =>
    rw [List.forall_mem_cons] at h
    rw [List.foldl_cons, setKey_of_not_isKnown h.1, ih h.2]

theorem foldl_setKey_own (s s' : Settings) :
    s.own.foldl setKey s' = { s with further := s'.further } := by
  simp only [own, Name.all, List.map_cons, List.map_nil, List.foldl_cons, List.foldl_nil,
    setKey_key, set, get]

theorem asFields?_cons (e : Value × Value) (es : List (Value × Value)) :
    asFields? (e :: es) = some fs ↔
      ∃ k gs, e.1 = .str k ∧ asFields? es = some gs ∧ fs = (k, e.2) :: gs := by
  obtain ⟨key, v⟩ := e
  rw [asFields?, List.mapM_cons, ← asFields?]
  cases key with
  | str k => cases asFields? es <;> simp [eq_comm]
  | _ => simp

theorem asFields?_eq_some_iff : asFields? es = some fs ↔ es = textKeys fs := by
  induction es generalizing fs with
  | nil => cases fs <;> simp [asFields?, textKeys]
  | cons e es ih =>
    rw [asFields?_cons]
    constructor
    · rintro ⟨k, gs, hkey, hgs, rfl⟩
      rw [ih.mp hgs, textKeys, textKeys, List.map_cons, ← hkey]
    · intro h
      cases fs with
      | nil => cases h
      | cons f fs =>
        obtain ⟨rfl, hes⟩ := List.cons.inj h
        exact ⟨f.1, fs, rfl, ih.mpr hes, rfl⟩

/-- Further settings without the keys of settings come back as they were. -/
theorem ofFields_saved (hfurther : s.further = .plain (.obj fs)) (hkeys : (fs.map (·.1)).Nodup)
    (hnew : ∀ f ∈ fs, isKnown f.1 = false) : ofFields (s.saved fs) = .ok s := by
  have hown : ∀ f ∈ s.own, isKnown f.1 = true := by
    intro f hf
    obtain ⟨n, -, rfl⟩ := List.mem_map.mp hf
    exact isKnown_key n
  have hsaved : s.saved fs = s.own ++ fs := by
    refine Assoc.update_eq_append Assoc.sameText_iff ?_
    rw [List.map_append, List.nodup_append]
    refine ⟨s.nodup_own, hkeys, fun k hk k' hk' hsame => ?_⟩
    obtain ⟨f, hf, rfl⟩ := List.mem_map.mp hk
    obtain ⟨f', hf', rfl⟩ := List.mem_map.mp hk'
    have hf := hown f hf
    rw [hsame, hnew f' hf'] at hf
    cases hf
  have hfilter : (s.own ++ fs).filter (fun f => !isKnown f.1) = fs := by
    rw [List.filter_append, List.filter_eq_nil_iff.mpr, List.nil_append, List.filter_eq_self.mpr]
    · simpa using hnew
    · simpa using hown
  have hupdate : Assoc.update Value.same [] (textKeys fs) = textKeys fs := by
    refine (Assoc.update_map same_str [] fs).trans ?_
    rw [Assoc.update_eq_append Assoc.sameText_iff (by simpa using hkeys), List.nil_append]
    rfl
  have hs : { s with further := Further.plain (.obj fs) } = s := by rw [← hfurther]
  rw [hsaved]
  simp only [ofFields, hfilter, List.foldl_append, foldl_setKey_own,
    foldl_setKey_of_not_isKnown hnew]
  split
  · rw [← hs]
    rfl
  · have hmore : Further.ofEntries (Assoc.update Value.same [] (textKeys fs)) =
        .plain (.obj fs) := by
      rw [hupdate, Further.ofEntries, asFields?_eq_some_iff.mpr rfl]
    rw [← hs, ← hmore]
    rfl

/-- Further settings are equal by their values, whatever the order of the entries. -/
inductive Further.Same : Further → Further → Prop
  | plain {v w : Value} (h : v.same w = true) : Same (.plain v) (.plain w)
  | keyed {es es' : List (Value × Value)} (hlength : es.length = es'.length)
    (h : ∀ e ∈ es, ∃ w, Assoc.get? Value.same es' e.1 = some w ∧ e.2.same w = true) :
    Same (.keyed es) (.keyed es')

/-- Settings are equal by their values. -/
structure Same (s s' : Settings) : Prop where
  own : ∀ n, (s.get n).same (s'.get n) = true
  further : s.further.Same s'.further

theorem further_setKey_of_ne (h : f.1 ≠ furtherKey) : (s.setKey f).further = s.further := by
  rw [setKey, if_neg h]
  split
  · rename_i n _
    cases n <;> rfl
  · rfl

/-- The last value under the key of the further settings is taken for them. -/
theorem further_foldl_setKey (hall : ∀ f ∈ fs, f.1 = furtherKey → f.2 = v)
    (h : (∃ f ∈ fs, f.1 = furtherKey) ∨ s.further = .plain v) :
    (fs.foldl setKey s).further = .plain v := by
  induction fs generalizing s with
  | nil =>
    rcases h with ⟨f, hf, -⟩ | h
    · cases hf
    · exact h
  | cons f fs ih =>
    rw [List.forall_mem_cons] at hall
    refine ih hall.2 ?_
    by_cases hf : f.1 = furtherKey
    · right
      rw [setKey, if_pos hf, hall.1 hf]
    · rw [further_setKey_of_ne hf]
      refine h.imp_left fun ⟨f', hf', hkey⟩ => ?_
      rcases List.mem_cons.mp hf' with rfl | hf'
      · exact absurd hkey hf
      · exact ⟨f', hf', hkey⟩

theorem further_of_ofFields (h : ofFields gs = .ok s')
    (hv : (gs.foldl setKey defaults).further = .plain v) :
    s'.further = .plain v ∨ ∃ es, (Further.plain v).base = .ok es ∧ s'.further =
      .ofEntries (Assoc.update Value.same es (textKeys (gs.filter fun f => !isKnown f.1))) := by
  simp only [ofFields] at h
  split at h
  · left
    rw [← Except.ok.inj h, hv]
  · right
    rw [hv] at h
    cases hes : (Further.plain v).base with
    | error e =>
      rw [hes] at h
      cases h
    | ok es =>
      rw [hes] at h
      rw [← Except.ok.inj h]
      exact ⟨es, rfl, rfl⟩

theorem depth_le_of_items? {x : Value} {vs : List Value} (h : v.items? = some vs) (hx : x ∈ vs) :
    x.depth ≤ v.depth := by
  cases v with
  | arr items =>
    cases h
    exact Nat.le_of_lt (Value.depth_lt_of_mem_arr hx)
  | str s =>
    cases h
    obtain ⟨c, -, rfl⟩ := List.mem_map.mp hx
    exact Nat.zero_le _
  | obj fs =>
    cases h
    obtain ⟨f, -, rfl⟩ := List.mem_map.mp hx
    exact Nat.zero_le _
  | _ => cases h

theorem givesOnly_pairOf (x : Value) : GivesOnly (pairOf x) fun p => p.2.depth ≤ x.depth := by
  rw [pairOf]
  split
  · rename_i k y hitems
    split
    · exact givesOnly_ok (depth_le_of_items? hitems (by simp))
    · exact givesOnly_error
  · exact givesOnly_error
  · exact givesOnly_error

/-- The values of the entries that fields are laid over are parts of the value given. -/
theorem givesOnly_base (v : Value) :
    GivesOnly (Further.plain v).base fun es => ∀ e ∈ es, e.2.depth < v.depth := by
  have hnone : GivesOnly (.ok [] : Except Failure (List (Value × Value)))
      fun es => ∀ e ∈ es, e.2.depth < v.depth := givesOnly_ok fun e he => absurd he List.not_mem_nil
  rw [Further.base]
  split
  · exact hnone
  · cases v with
    | obj fs =>
      refine givesOnly_ok fun e he => ?_
      obtain ⟨f, hf, rfl⟩ := List.mem_map.mp he
      exact Value.depth_lt_of_mem_obj hf
    | arr items =>
      have hpairs : GivesOnly (items.mapM pairOf) fun ps =>
          ∀ p ∈ ps, p.2.depth < (Value.arr items).depth :=
        givesOnly_mapM fun x hx p hp =>
          Nat.lt_of_le_of_lt (givesOnly_pairOf x p hp) (Value.depth_lt_of_mem_arr hx)
      refine hpairs.bind fun ps hps => givesOnly_ok fun e he => ?_
      rcases Assoc.mem_update he with he | ⟨p, hp, -, hvalue⟩
      · exact absurd he List.not_mem_nil
      · rw [hvalue]
        exact hps p hp
    | str s =>
      rw [entriesOf]
      split
      · exact hnone
      · exact givesOnly_error
    | _ => exact givesOnly_error

theorem exists_lookup_of_same (h : Further.Same (.plain (.obj fs)) (.plain v)) (hf : f ∈ fs) :
    ∃ gs w, v = .obj gs ∧ (f.1, w) ∈ gs ∧ f.2.same w = true := by
  cases h with
  | plain h =>
    cases v with
    | obj gs =>
      rw [Value.same, Bool.and_eq_true] at h
      obtain ⟨w, hw, hsame⟩ := Value.sameFields_iff.mp h.2 f hf
      exact ⟨gs, w, rfl, Value.mem_of_lookup_eq_some hw, hsame⟩
    | _ => simp [Value.same, Value.number?] at h

/-- Where fields without known keys are laid over entries, a value under a known key comes from the
entries. -/
theorem exists_mem_of_same_ofEntries (h : Further.Same (.plain (.obj fs))
      (.ofEntries (Assoc.update Value.same es (textKeys (gs.filter fun f => !isKnown f.1)))))
    (hf : f ∈ fs) (hknown : isKnown f.1 = true) :
    ∃ w, (.str f.1, w) ∈ es ∧ f.2.same w = true := by
  rw [Further.ofEntries] at h
  split at h
  case h_2 => cases h
  case h_1 fields hfields =>
    obtain ⟨_, w, ⟨⟩, hw, hsame⟩ := exists_lookup_of_same h hf
    refine ⟨w, ?_, hsame⟩
    have hmem : (.str f.1, w) ∈ textKeys fields := List.mem_map.mpr ⟨(f.1, w), hw, rfl⟩
    rw [← asFields?_eq_some_iff.mp hfields] at hmem
    rcases Assoc.mem_update hmem with hmem | ⟨e, he, hkey, -⟩
    · exact hmem
    · obtain ⟨f', hf', rfl⟩ := List.mem_map.mp he
      have hkeys : f.1 = f'.1 := by
        rcases hkey with hkey | hkey
        · exact Value.str.inj hkey
        · exact (Assoc.sameText_iff _ _).mp ((same_str _ _).symm.trans hkey)
      have hunknown := (List.mem_filter.mp hf').2
      rw [← hkeys, hknown] at hunknown
      cases hunknown

theorem ne_furtherKey_of_mem_own (hf : f ∈ s.own) : f.1 ≠ furtherKey := by
  obtain ⟨n, -, rfl⟩ := List.mem_map.mp hf
  exact key_ne_furtherKey n

/-- What is taken for the further settings is what stands under their key, if anything does. -/
theorem further_foldl_saved (hkeys : (fs.map (·.1)).Nodup) :
    (∃ v, (furtherKey, v) ∈ fs ∧ ((s.saved fs).foldl setKey defaults).further = .plain v) ∨
      ((s.saved fs).foldl setKey defaults).further = .plain (.obj []) := by
  by_cases hfurther : ∃ f ∈ fs, f.1 = furtherKey
  · left
    obtain ⟨f, hf, hkey⟩ := hfurther
    refine ⟨f.2, hkey ▸ hf, further_foldl_setKey (fun e he hekey => ?_) (Or.inl ⟨f, ?_, hkey⟩)⟩
    · rcases Assoc.mem_update_of_keys Assoc.sameText_iff he with he | he
      · exact absurd hekey (ne_furtherKey_of_mem_own he)
      · have h₁ := Value.lookup_eq_some_of_mem hkeys hf
        have h₂ := Value.lookup_eq_some_of_mem hkeys he
        rw [hekey, ← hkey, h₁] at h₂
        exact (Option.some.inj h₂).symm
    · exact Assoc.mem_update_of_mem Assoc.sameText_iff hkeys hf
  · right
    refine further_foldl_setKey (fun e he hekey => ?_) (Or.inr rfl)
    rcases Assoc.mem_update_of_keys Assoc.sameText_iff he with he | he
    · exact absurd hekey (ne_furtherKey_of_mem_own he)
    · exact absurd ⟨e, he, hekey⟩ hfurther

/-- Further settings with the key of a setting do not come back as they were: a value under their
own key would have to be a part of itself. -/
theorem not_same_of_isKnown (hkeys : (fs.map (·.1)).Nodup) (hf : f ∈ fs)
    (hknown : isKnown f.1 = true) (h : ofFields (s.saved fs) = .ok s') :
    ¬ Further.Same (.plain (.obj fs)) s'.further := by
  intro hsame
  have hfurther : isKnown furtherKey = true := by decide
  rcases further_foldl_saved (s := s) hkeys with ⟨v, hv, hfold⟩ | hfold
  -- The further settings hold a value under their own key, and it is taken for them: what comes
  -- back is that value or has its entries, so nothing in it is as deep as it.
  · rcases further_of_ofFields h hfold with hplain | ⟨es, hes, hmore⟩
    · rw [hplain] at hsame
      cases hsame with
      | plain hsame =>
        exact absurd (Value.depth_le_of_same hsame) (Nat.not_le.mpr (Value.depth_lt_of_mem_obj hv))
    · rw [hmore] at hsame
      obtain ⟨w, hw, hvw⟩ := exists_mem_of_same_ofEntries hsame hv hfurther
      exact absurd (Value.depth_le_of_same hvw) (Nat.not_le.mpr (givesOnly_base v es hes _ hw))
  -- Nothing is taken for them, so only fields without known keys come back.
  · rcases further_of_ofFields h hfold with hplain | ⟨es, hes, hmore⟩
    · rw [hplain] at hsame
      obtain ⟨gs, w, hgs, hw, -⟩ := exists_lookup_of_same hsame hf
      cases hgs
      cases hw
    · rw [hmore] at hsame
      obtain ⟨w, hw, -⟩ := exists_mem_of_same_ofEntries hsame hf hknown
      cases hes
      cases hw

end VueWrap.Settings
