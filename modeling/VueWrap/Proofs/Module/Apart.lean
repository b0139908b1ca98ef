import Mathlib.Data.List.Forall2
import VueWrap.Module.Block
import VueWrap.Proofs.Json.Apart
import VueWrap.Proofs.Outcome

/-! # Props told apart by their block

The block of some props shows the name of each, the tokens of its types and its
restriction. Whatever the strings of a restriction look like, nothing else has the same
text: an entry says where it ends, and what stands behind it goes on with no name.
-/

namespace VueWrap

open Text (SetsApart EndsRun inBrackets)

variable {s : String} {cs ds rest rest' : List Char}

/-- An ASCII letter or digit, an underscore or a dollar sign. -/
def isNameChar (c : Char) : Bool := c.isAlphanum || c == '_' || c == '$'

/-- The string is a name, of one character at least. -/
structure IsName (s : String) : Prop where
  ne_empty : s ≠ ""
  all : ∀ c ∈ s.toList, isNameChar c = true

theorem setsApart_name (hs : IsName s) : SetsApart String.toList IsName (EndsRun isNameChar) s := by
  intro t rest rest' ht hrest hrest' h
  obtain ⟨hchars, hrests⟩ := Text.append_inj_of_endsRun hs.all ht.all hrest hrest' h
  exact ⟨String.toList_inj.mp hchars, hrests⟩

/-- Nothing but a name begins like a name. -/
theorem IsName.append_ne {c : Char} (hs : IsName s) (hc : isNameChar c = false)
    (cs ds : List Char) : s.toList ++ cs ≠ c :: ds := by
  have hne : s.toList ≠ [] := fun h => hs.ne_empty (String.toList_eq_nil_iff.mp h)
  obtain ⟨d, ds', hd⟩ := List.exists_cons_of_ne_nil hne
  rw [hd]
  rintro ⟨⟩
  have hname := hs.all c (hd ▸ List.mem_cons_self)
  rw [hc] at hname
  cases hname

namespace Module

def typesText : List String → List Char
  | [] => ['{', '}']
  | [t] => t.toList
  | ts => inBrackets '[' ']' String.toList ts

variable {ts : List String}

theorem toList_intercalate (t : String) (ts : List String) :
    (", ".intercalate (t :: ts)).toList =
      t.toList ++ ts.flatMap fun t => ',' :: ([' '] ++ t.toList) := by
  induction ts generalizing t with
  | nil => rw [String.intercalate_singleton, List.flatMap_nil, List.append_nil]
  | cons t' ts ih =>
    rw [String.intercalate_cons_cons, String.toList_append, String.toList_append, ih]
    simp

theorem bracketed_map (ts : List String) :
    bracketed (ts.map .str) = .ok (.str ("[" ++ ", ".intercalate ts ++ "]")) := by
  have hnames : (ts.mapM fun t => (.ok t : Except Failure String)) = .ok ts := by
    induction ts with
    | nil => rfl
    | cons t ts ih =>
      rw [List.mapM_cons, ih]
      rfl
  rw [bracketed, List.mapM_map]
  exact bind_eq_ok_iff.mpr ⟨ts, hnames, rfl⟩

theorem exists_constructorText_map (ts : List String) :
    ∃ s, constructorText (ts.map .str) = some s ∧ s.toList = typesText ts := by
  match ts with
  | [] => exact ⟨_, rfl, rfl⟩
  | [t] => exact ⟨t, rfl, rfl⟩
  | t :: t' :: ts =>
    have hmany : constructors (.arr ((t :: t' :: ts).map .str)) =
        bracketed ((t :: t' :: ts).map .str) := rfl
    refine ⟨_, by rw [constructorText, hmany, bracketed_map], ?_⟩
    rw [Value.display_str, String.toList_append, String.toList_append, toList_intercalate]
    simp [typesText, inBrackets]

theorem typesText_append_ne (hts : ∀ t ∈ ts, IsName t) (cs ds : List Char) :
    typesText ts ++ cs ≠ '{' :: '\n' :: ds := by
  match ts with
  | [] => rintro ⟨⟩
  | [t] => exact (List.forall_mem_singleton.mp hts).append_ne rfl cs _
  | t :: t' :: ts => rintro ⟨⟩

theorem setsApart_typesText (hts : ∀ t ∈ ts, IsName t) :
    SetsApart typesText (fun ts => ∀ t ∈ ts, IsName t) (EndsRun isNameChar) ts := by
  intro us rest rest' (hus : ∀ u ∈ us, IsName u) hrest hrest' h
  match ts, us with
  | [], [] => exact ⟨rfl, List.append_cancel_left h⟩
  | [], [u] => exact absurd h.symm ((hus u List.mem_cons_self).append_ne rfl _ _)
  | [], _ :: _ :: _ => cases h
  | [t], [] => exact absurd h ((hts t List.mem_cons_self).append_ne rfl _ _)
  | [t], [u] =>
    obtain ⟨rfl, hrests⟩ := setsApart_name (hts t List.mem_cons_self) (hus u List.mem_cons_self)
      hrest hrest' h
    exact ⟨rfl, hrests⟩
  | [t], _ :: _ :: _ => exact absurd h ((hts t List.mem_cons_self).append_ne rfl _ _)
  | _ :: _ :: _, [] => cases h
  | _ :: _ :: _, [u] => exact absurd h.symm ((hus u List.mem_cons_self).append_ne rfl _ _)
  | t :: t' :: ts, u :: u' :: us =>
    exact SetsApart.inBrackets (fun _ => Text.endsRun_cons rfl _) (fun _ => Text.endsRun_cons rfl _)
      (by decide) (fun _ ht => ht.append_ne rfl) (fun t ht => ⟨hts t ht, setsApart_name (hts t ht)⟩)
      hus trivial trivial h

variable {r : Restriction}

theorem setsApart_validator (hr : ∀ v ∈ r.values, v.FloatFree) :
    SetsApart validator (fun r => ∀ v ∈ r.values, v.FloatFree) (fun _ => True) r := by
  intro r' rest rest' hr' _ _ h
  have hvalues : SetsApart (fun vs => Json.printAt .inline 0 (.arr vs)) _ _ r.values :=
    Json.setsApart_arr hr fun v hv => Json.setsApart_printAt (hr v hv) 1
  simp only [validator, Json.write, Json.print, Json.printAt, text_cons, text_nil,
    String.toList_ofList, List.append_assoc, List.append_nil] at h
  obtain ⟨htype, htail⟩ :=
    Json.setsApart_printString r.type trivial trivial trivial (List.append_cancel_left h)
  obtain ⟨hlist, hrests⟩ := hvalues hr' trivial trivial (List.append_cancel_left htail)
  refine ⟨?_, List.append_cancel_left hrests⟩
  cases r
  cases r'
  exact congr (congrArg _ htype) hlist

structure Shown where
  name : String
  types : List String
  restriction : Option Restriction

/-- The value of the entry: constructors alone, or with the check of a restriction. -/
def Shown.value (e : Shown) : List Char :=
  match e.restriction with
  | none => typesText e.types
  | some r => "\x7b\n      type: ".toList ++ (typesText e.types ++
      (",\n".toList ++ (validator r ++ "\n    \x7d".toList)))

def Shown.text (e : Shown) : List Char :=
  "    ".toList ++ (e.name.toList ++ (": ".toList ++ e.value))

/-- The names of the entry are names, and its values have no floats. -/
structure Shown.Plain (e : Shown) : Prop where
  name : IsName e.name
  types : ∀ t ∈ e.types, IsName t
  values : ∀ r ∈ e.restriction, ∀ v ∈ r.values, v.FloatFree

variable {e : Shown} {es es' : List Shown}

theorem Shown.Plain.value_inj {e' : Shown} (he : e.Plain) (he' : e'.Plain)
    (hrest : EndsRun isNameChar rest) (hrest' : EndsRun isNameChar rest')
    (h : e.value ++ rest = e'.value ++ rest') :
    e.types = e'.types ∧ e.restriction = e'.restriction ∧ rest = rest' := by
  have htypes := setsApart_typesText he.types
  unfold Shown.value at h
  cases hr : e.restriction with
  | none =>
    cases hr' : e'.restriction with
    | none =>
      rw [hr, hr'] at h
      obtain ⟨htypes, hrests⟩ := htypes he'.types hrest hrest' h
      exact ⟨htypes, rfl, hrests⟩
    | some r' =>
      rw [hr, hr'] at h
      exact absurd h (typesText_append_ne he.types _ _)
  | some r =>
    cases hr' : e'.restriction with
    | none =>
      rw [hr, hr'] at h
      exact absurd h.symm (typesText_append_ne he'.types _ _)
    | some r' =>
      rw [hr, hr'] at h
      simp only [List.append_assoc] at h
      have hcomma (cs : List Char) : EndsRun isNameChar (",\n".toList ++ cs) :=
        Text.endsRun_cons rfl _
      obtain ⟨htypes, htail⟩ := htypes he'.types (hcomma _) (hcomma _) (List.append_cancel_left h)
      obtain ⟨rfl, hrests⟩ := setsApart_validator (he.values r hr) (he'.values r' hr') trivial
        trivial (List.append_cancel_left htail)
      exact ⟨htypes, rfl, List.append_cancel_left hrests⟩

/-- Entries are told apart by their text in front of what goes on with no name. -/
theorem Shown.Plain.setsApart (he : e.Plain) :
    SetsApart Shown.text Shown.Plain (EndsRun isNameChar) e := by
  intro e' rest rest' he' hrest hrest' h
  simp only [Shown.text, List.append_assoc] at h
  have hcolon (cs : List Char) : EndsRun isNameChar (": ".toList ++ cs) :=
    Text.endsRun_cons rfl _
  obtain ⟨hname, htail⟩ :=
    setsApart_name he.name he'.name (hcolon _) (hcolon _) (List.append_cancel_left h)
  obtain ⟨htypes, hrestriction, hrests⟩ :=
    he.value_inj he' hrest hrest' (List.append_cancel_left htail)
  refine ⟨?_, hrests⟩
  cases e
  cases e'
  simp_all

def shownBlock (es : List Shown) : List Char :=
  line ["  props: \x7b"] ++ listed "," (es.map Shown.text) ++ Module.text ["  \x7d"]

theorem listed_map_cons {α : Type} (f : α → List Char) (a : α) (as : List α) :
    listed "," ((a :: as).map f) =
      f a ++ ((as.flatMap fun a => ',' :: (['\n'] ++ f a)) ++ ['\n']) := by
  induction as generalizing a with
  | nil => rfl
  | cons b bs ih =>
    have hcons : listed "," ((a :: b :: bs).map f) =
        f a ++ ",".toList ++ '\n' :: listed "," ((b :: bs).map f) := rfl
    rw [hcons, ih]
    simp

/-- Blocks with the same text have the same entries. -/
theorem shownBlock_inj (hes : ∀ e ∈ es, e.Plain) (hes' : ∀ e ∈ es', e.Plain)
    (h : shownBlock es = shownBlock es') : es = es' := by
  simp only [shownBlock, List.append_assoc] at h
  replace h := List.append_cancel_left h
  cases es with
  | nil =>
    cases es' with
    | nil => rfl
    | cons e' es' =>
      rw [listed_map_cons] at h
      cases h
  | cons e es =>
    cases es' with
    | nil =>
      rw [listed_map_cons] at h
      cases h
    | cons e' es' =>
      obtain ⟨he, hrest⟩ := List.forall_mem_cons.mp hes
      obtain ⟨he', hrest'⟩ := List.forall_mem_cons.mp hes'
      simp only [listed_map_cons, List.append_assoc] at h
      have hnext (l : List Shown) (cs : List Char) : EndsRun isNameChar
          ((l.flatMap fun e => ',' :: (['\n'] ++ e.text)) ++ (['\n'] ++ cs)) := by
        cases l <;> exact Text.endsRun_cons rfl _
      obtain ⟨rfl, htail⟩ := he.setsApart he' (hnext es _) (hnext es' _) h
      have hmark (cs : List Char) : EndsRun isNameChar (['\n'] ++ cs) ∧
          (['\n'] ++ cs).head? ≠ some ',' := ⟨Text.endsRun_cons rfl _, by simp⟩
      obtain ⟨rfl, -⟩ := SetsApart.flatMap ['\n'] (fun _ => Text.endsRun_cons rfl _)
        (fun e he => (hrest e he).setsApart) hrest' (hmark _) (hmark _) htail
      rfl

end Module

structure PropDecl.Shows (p : PropDecl) (e : Module.Shown) : Prop where
  name : p.name = .str e.name
  types : p.types = e.types.map .str
  restriction : p.restriction = e.restriction

/-- The name of the prop and the tokens of its types are names, and it is limited to values without
floats, if at all. -/
structure PropDecl.Plain (p : PropDecl) : Prop where
  name : ∃ s, p.name = .str s ∧ IsName s
  types : ∀ t ∈ p.types, ∃ s, t = .str s ∧ IsName s
  values : ∀ r ∈ p.restriction, ∀ v ∈ r.values, v.FloatFree

/-- The props have the same name, the same tokens and the same restriction. -/
structure PropDecl.Agree (p q : PropDecl) : Prop where
  name : p.name = q.name
  types : p.types = q.types
  restriction : p.restriction = q.restriction

namespace Module

variable {p q : PropDecl} {ps qs : List PropDecl}

theorem exists_shows (hp : p.Plain) : ∃ e, p.Shows e ∧ e.Plain := by
  obtain ⟨s, hname, hs⟩ := hp.name
  obtain ⟨ts, hts, hnames⟩ : ∃ ts : List String, p.types = ts.map .str ∧ ∀ t ∈ ts, IsName t := by
    have htypes := hp.types
    generalize p.types = types at htypes
    induction types with
    | nil => exact ⟨[], rfl, List.forall_mem_nil _⟩
    | cons t types ih =>
      obtain ⟨⟨s, rfl, hs⟩, hrest⟩ := List.forall_mem_cons.mp htypes
      obtain ⟨ts, rfl, hts⟩ := ih hrest
      exact ⟨s :: ts, rfl, List.forall_mem_cons.mpr ⟨hs, hts⟩⟩
  exact ⟨⟨s, ts, p.restriction⟩, ⟨hname, hts, rfl⟩, ⟨hs, hnames, hp.values⟩⟩

theorem propEntry_of_shows {e : Shown} (h : p.Shows e) : propEntry p = some e.text := by
  obtain ⟨s, hs, htext⟩ := exists_constructorText_map e.types
  simp only [propEntry, h.types, hs, h.restriction, h.name, Value.display_str]
  cases hr : e.restriction with
  | none => simp [Shown.text, Shown.value, hr, htext]
  | some r => simp [Shown.text, Shown.value, hr, htext, line]

theorem propsBlock_of_shows {es : List Shown} (h : List.Forall₂ PropDecl.Shows ps es) :
    propsBlock ps = some (shownBlock es) := by
  have hentries : ps.mapM propEntry = some (es.map Shown.text) := by
    induction h with
    | nil => rfl
    | cons hp _ ih =>
      rw [List.mapM_cons, propEntry_of_shows hp, ih]
      rfl
  rw [propsBlock, hentries]
  rfl

theorem exists_forall₂_shows (hps : ∀ p ∈ ps, p.Plain) :
    ∃ es : List Shown, List.Forall₂ PropDecl.Shows ps es ∧ ∀ e ∈ es, e.Plain := by
  induction ps with
  | nil => exact ⟨[], .nil, List.forall_mem_nil _⟩
  | cons p ps ih =>
    obtain ⟨hp, hps⟩ := List.forall_mem_cons.mp hps
    obtain ⟨e, he, hplain⟩ := exists_shows hp
    obtain ⟨es, hes, hplains⟩ := ih hps
    exact ⟨e :: es, .cons he hes, List.forall_mem_cons.mpr ⟨hplain, hplains⟩⟩

theorem agree_of_shows {e : Shown} (hp : p.Shows e) (hq : q.Shows e) : p.Agree q :=
  ⟨hp.name.trans hq.name.symm, hp.types.trans hq.types.symm,
    hp.restriction.trans hq.restriction.symm⟩

theorem forall₂_agree {es : List Shown} (hps : List.Forall₂ PropDecl.Shows ps es)
    (hqs : List.Forall₂ PropDecl.Shows qs es) : List.Forall₂ PropDecl.Agree ps qs := by
  induction hps generalizing qs with
  | nil =>
    cases hqs
    exact .nil
  | cons hp _ ih =>
    cases hqs with
    | cons hq hqs => exact .cons (agree_of_shows hp hq) (ih hqs)

theorem propEntry_congr (h : p.Agree q) : propEntry p = propEntry q := by
  simp only [propEntry, h.name, h.types, h.restriction]

theorem propsBlock_congr (h : List.Forall₂ PropDecl.Agree ps qs) :
    propsBlock ps = propsBlock qs := by
  have hentries : ps.mapM propEntry = qs.mapM propEntry := by
    induction h with
    | nil => rfl
    | cons hpq _ ih => rw [List.mapM_cons, List.mapM_cons, propEntry_congr hpq, ih]
  rw [propsBlock, hentries, propsBlock]

/-- Plain props have a block, and it is the block of no other props but those that agree with them
one by one. -/
theorem propsBlock_eq_iff (hps : ∀ p ∈ ps, p.Plain) (hqs : ∀ q ∈ qs, q.Plain) :
    (∃ cs, propsBlock ps = some cs) ∧
      (propsBlock ps = propsBlock qs ↔ List.Forall₂ PropDecl.Agree ps qs) := by
  obtain ⟨es, hes, hplain⟩ := exists_forall₂_shows hps
  obtain ⟨es', hes', hplain'⟩ := exists_forall₂_shows hqs
  refine ⟨⟨_, propsBlock_of_shows hes⟩, fun h => ?_, propsBlock_congr⟩
  rw [propsBlock_of_shows hes, propsBlock_of_shows hes'] at h
  obtain rfl := shownBlock_inj hplain hplain' (Option.some.inj h)
  exact forall₂_agree hes hes'

/-- A prop limited to a string that looks like the end of its entry and one more entry. -/
def imitation : PropDecl :=
  ⟨.str "size", [.str "Number"], false,
    some ⟨"number", [.str "\"].indexOf(v) !== -1\n    \x7d,\n    step: \x7b\x7d"]⟩⟩

/-- The two props that the other one seems to be. -/
def imitated : List PropDecl :=
  [⟨.str "size", [.str "Number"], false, some ⟨"number", [.str ""]⟩⟩, ⟨.str "step", [], false, none⟩]

theorem isName_of_forall (h : s ≠ "" ∧ s.toList.all isNameChar = true) : IsName s :=
  ⟨h.1, List.all_eq_true.mp h.2⟩

theorem propsBlock_imitation_ne :
    (∀ p ∈ [imitation], p.Plain) ∧ (∀ q ∈ imitated, q.Plain) ∧
      (∃ cs, propsBlock [imitation] = some cs) ∧ propsBlock [imitation] ≠ propsBlock imitated := by
  have hsize : IsName "size" := isName_of_forall (by decide)
  have hstep : IsName "step" := isName_of_forall (by decide)
  have hnumber : IsName "Number" := isName_of_forall (by decide)
  have hps : ∀ p ∈ [imitation], p.Plain := by
    refine List.forall_mem_singleton.mpr ⟨⟨_, rfl, hsize⟩, ?_, ?_⟩
    · exact List.forall_mem_singleton.mpr ⟨_, rfl, hnumber⟩
    · rintro _ ⟨⟩
      exact List.forall_mem_singleton.mpr (.str _)
  have hqs : ∀ q ∈ imitated, q.Plain := by
    refine List.forall_mem_cons.mpr ⟨⟨⟨_, rfl, hsize⟩, ?_, ?_⟩, List.forall_mem_singleton.mpr
      ⟨⟨_, rfl, hstep⟩, List.forall_mem_nil _, ?_⟩⟩
    · exact List.forall_mem_singleton.mpr ⟨_, rfl, hnumber⟩
    · rintro _ ⟨⟩
      exact List.forall_mem_singleton.mpr (.str _)
    · rintro _ ⟨⟩
  obtain ⟨hblock, hiff⟩ := propsBlock_eq_iff hps hqs
  refine ⟨hps, hqs, hblock, fun h => ?_⟩
  have hlength := (hiff.mp h).length_eq
  cases hlength

end Module

end VueWrap
