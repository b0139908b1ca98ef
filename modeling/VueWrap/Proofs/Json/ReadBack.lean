import VueWrap.Proofs.Assoc
import VueWrap.Proofs.Json.Scalars

/-! # Values are read back

A value without floats is written as a text that is read as the value, in any
layout that puts nothing but blanks around the items. Objects have to be without
repeated keys, which a text cannot keep.
-/

namespace VueWrap

/-- No number of the value is a float, and no object of it has a key twice. -/
inductive Value.Plain : Value → Prop
  | null : Plain .null
  | bool (b : Bool) : Plain (.bool b)
  | int (n : Int) : Plain (.int n)
  | str (s : String) : Plain (.str s)
  | arr {vs : List Value} (h : ∀ v ∈ vs, Plain v) : Plain (.arr vs)
  | obj {fs : List (String × Value)} (hkeys : (fs.map (·.1)).Nodup) (h : ∀ f ∈ fs, Plain f.2) :
    Plain (.obj fs)

namespace Json

variable {l : Layout} {c : Char} {cs sp rest : List Char} {v : Value} {vs : List Value}
  {fs : List (String × Value)} {depth fuel : Nat}

theorem itemsWritable_iff : itemsWritable vs = true ↔ ∀ v ∈ vs, isWritable v = true := by
  induction vs with
  | nil => simp [itemsWritable]
  | cons v vs ih => simp [itemsWritable, ih]

theorem fieldsWritable_iff : fieldsWritable fs = true ↔ ∀ f ∈ fs, isWritable f.2 = true := by
  induction fs with
  | nil => simp [fieldsWritable]
  | cons f fs ih => simp [fieldsWritable, ih]

/-- The layout puts nothing but blanks around items. -/
def Layout.Blank (l : Layout) : Prop := ∀ depth, ∀ c ∈ l.break depth, isSpace c = true

theorem blank_spaced (width : Nat) : (Layout.spaced width).Blank := by
  intro depth c hc
  rcases List.mem_cons.mp hc with rfl | hc
  · rfl
  · obtain ⟨unit, hunit, hc⟩ := List.mem_flatten.mp hc
    rw [(List.mem_replicate.mp hunit).2] at hc
    rw [(List.mem_replicate.mp hc).2]
    rfl

theorem skip_cons_of_not_space (hc : isSpace c = false) : skip (c :: cs) = c :: cs := by
  simp [skip, hc]

theorem skip_append (hsp : ∀ c ∈ sp, isSpace c = true) (hc : isSpace c = false) :
    skip (sp ++ c :: cs) = c :: cs := by
  rw [skip, List.dropWhile_append_of_pos hsp]
  exact skip_cons_of_not_space hc

theorem isSpace_of_mem_space : ∀ c ∈ [' '], isSpace c = true := List.forall_mem_singleton.mpr rfl

theorem exists_comma_eq (hl : l.Blank) (depth : Nat) :
    ∃ sp, l.comma depth = ',' :: sp ∧ ∀ c ∈ sp, isSpace c = true := by
  cases l with
  | inline => exact ⟨[' '], rfl, isSpace_of_mem_space⟩
  | block unit => exact ⟨_, rfl, hl depth⟩

/-- A value may begin with the character: it is no blank and no mark, and ends no list and no
object. -/
structure BeginsValue (c : Char) : Prop where
  not_space : isSpace c = false
  ne_bracket : c ≠ ']'
  ne_brace : c ≠ '}'
  ne_mark : c ≠ Char.ofNat 0xfeff

theorem beginsValue_of_isDigit (hc : c.isDigit = true) : BeginsValue c := by
  have hne : ∀ d : Char, d.isDigit = false → c ≠ d := fun d hd => ne_of_isDigit hc hd
  refine ⟨?_, hne ']' rfl, hne '}' rfl, hne _ rfl⟩
  simp [isSpace, hne]

theorem exists_printAt_eq (l : Layout) (depth : Nat) (hv : v.Plain) :
    ∃ c cs, printAt l depth v = c :: cs ∧ BeginsValue c := by
  cases hv with
  | null => exact ⟨_, _, rfl, rfl, by decide, by decide, by decide⟩
  | bool b => cases b <;> exact ⟨_, _, rfl, rfl, by decide, by decide, by decide⟩
  | int n =>
    obtain ⟨d, ds, hd, h | h⟩ := exists_printInt_eq n
    · exact ⟨d, ds, h, beginsValue_of_isDigit hd⟩
    · exact ⟨'-', d :: ds, h, rfl, by decide, by decide, by decide⟩
  | str s => exact ⟨'"', _, rfl, rfl, by decide, by decide, by decide⟩
  | @arr vs h => cases vs <;> exact ⟨'[', _, rfl, rfl, by decide, by decide, by decide⟩
  | @obj fs hkeys h =>
    cases fs with
    | nil => exact ⟨'{', _, rfl, rfl, by decide, by decide, by decide⟩
    | cons f fs => exact ⟨'{', _, rfl, rfl, by decide, by decide, by decide⟩

theorem endsNumber_cons (hc : c = ',' ∨ c = ']' ∨ c = '}') (rest : List Char) :
    EndsNumber (c :: rest) := by
  intro d hd
  obtain rfl := Option.some.inj hd
  rcases hc with rfl | rfl | rfl <;> decide

theorem endsNumber_append (hsp : ∀ c ∈ sp, isSpace c = true)
    (hc : c = ',' ∨ c = ']' ∨ c = '}') : EndsNumber (sp ++ c :: rest) := by
  cases sp with
  | nil => exact endsNumber_cons hc rest
  | cons a sp =>
    intro d hd
    obtain rfl := Option.some.inj hd
    have ha := hsp a List.mem_cons_self
    simp only [isSpace, Bool.or_eq_true, beq_iff_eq] at ha
    rcases ha with ((rfl | rfl) | rfl) | rfl <;> decide

/-- Whatever follows that does not go on with a number, the value is read from the front of a text
that begins with it. -/
def ReadsBack (l : Layout) (v : Value) : Prop :=
  ∀ depth fuel rest, (printAt l depth v).length ≤ fuel → EndsNumber rest →
    readValue fuel (printAt l depth v ++ rest) = .ok (v, rest)

theorem readItems_printItems (hl : l.Blank) (hsp : ∀ c ∈ sp, isSpace c = true)
    (hv : v.Plain) (hback : ReadsBack l v) (hvs : ∀ w ∈ vs, w.Plain ∧ ReadsBack l w)
    (hfuel : (printAt l depth v ++ printItems l depth vs).length < fuel) :
    readItems fuel (printAt l depth v ++ (printItems l depth vs ++ (sp ++ ']' :: rest))) =
      .ok (v :: vs, rest) := by
  induction vs generalizing v fuel with
  | nil =>
    obtain ⟨fuel, rfl⟩ := Nat.exists_eq_add_one.mpr (Nat.zero_lt_of_lt hfuel)
    have hends : EndsNumber (sp ++ ']' :: rest) := endsNumber_append hsp (by simp)
    simp only [printItems, List.append_nil, List.nil_append] at hfuel ⊢
    rw [readItems, hback depth fuel _ (by omega) hends]
    simp only [skip_append hsp (show isSpace ']' = false from rfl)]
  | cons w vs ih =>
    obtain ⟨fuel, rfl⟩ := Nat.exists_eq_add_one.mpr (Nat.zero_lt_of_lt hfuel)
    obtain ⟨⟨hw, hwback⟩, hvs⟩ := List.forall_mem_cons.mp hvs
    obtain ⟨comma, hcomma, hblank⟩ := exists_comma_eq hl depth
    obtain ⟨c, cs, hc, hbegins⟩ := exists_printAt_eq l depth hw
    simp only [printItems, hcomma, List.length_append, List.length_cons, List.cons_append,
      List.append_assoc] at hfuel ⊢
    -- The mark ends the value before it and is where the reader goes on.
    have hends : EndsNumber (',' :: (comma ++ (printAt l depth w ++ (printItems l depth vs ++
        (sp ++ ']' :: rest))))) := endsNumber_cons (Or.inl rfl) _
    have htail := @ih w fuel hw hwback hvs (by simp only [List.length_append]; omega)
    rw [readItems, hback depth fuel _ (by omega) hends]
    simp only [skip_cons_of_not_space (show isSpace ',' = false from rfl)]
    rw [hc, List.cons_append] at htail ⊢
    rw [skip_append hblank hbegins.not_space, htail]
    rfl

/-- A field is read up to the mark behind its value, which ends the object or leads to more. -/
theorem readFields_field {k : String} (hv : v.Plain) (hback : ReadsBack l v)
    (hrest : EndsNumber rest)
    (hfuel : (printString k ++ ':' :: ' ' :: printAt l depth v).length ≤ fuel) :
    (∀ cs, skip rest = '}' :: cs →
      readFields (fuel + 1) (printString k ++ ':' :: ' ' :: (printAt l depth v ++ rest)) =
        .ok ([(k, v)], cs)) ∧
    ∀ cs, skip rest = ',' :: cs →
      readFields (fuel + 1) (printString k ++ ':' :: ' ' :: (printAt l depth v ++ rest)) =
        (readFields fuel (skip cs)).map fun r => ((k, v) :: r.1, r.2) := by
  rw [List.length_append, List.length_cons, List.length_cons] at hfuel
  obtain ⟨c, cs, hc, hbegins⟩ := exists_printAt_eq l depth hv
  have hvalue := hback depth fuel rest (by omega) hrest
  have hskip : skip (' ' :: (printAt l depth v ++ rest)) = printAt l depth v ++ rest := by
    rw [hc]
    exact skip_append isSpace_of_mem_space hbegins.not_space
  have hkey := @readString_printString fuel k (':' :: ' ' :: (printAt l depth v ++ rest)) (by omega)
  obtain ⟨q, hq⟩ := exists_printString_eq k
  rw [hq, List.cons_append] at hkey ⊢
  have hcolon : ∀ cs, skip (':' :: cs) = ':' :: cs := fun _ => skip_cons_of_not_space rfl
  constructor <;>
  · intro cs hmark
    simp only [readFields, hkey, hcolon, hskip, hvalue, hmark]

theorem readFields_printFields {k : String} (hl : l.Blank) (hsp : ∀ c ∈ sp, isSpace c = true)
    (hv : v.Plain) (hback : ReadsBack l v) (hfs : ∀ f ∈ fs, f.2.Plain ∧ ReadsBack l f.2)
    (hfuel : (printString k ++ ':' :: ' ' :: (printAt l depth v ++ printFields l depth fs)).length <
      fuel) :
    readFields fuel (printString k ++ ':' :: ' ' :: (printAt l depth v ++
      (printFields l depth fs ++ (sp ++ '}' :: rest)))) = .ok ((k, v) :: fs, rest) := by
  induction fs generalizing k v fuel with
  | nil =>
    obtain ⟨fuel, rfl⟩ := Nat.exists_eq_add_one.mpr (Nat.zero_lt_of_lt hfuel)
    simp only [printFields, List.append_nil, List.nil_append] at hfuel ⊢
    have hends : EndsNumber (sp ++ '}' :: rest) := endsNumber_append hsp (by simp)
    exact (readFields_field hv hback hends (by omega)).1 rest (skip_append hsp rfl)
  | cons f fs ih =>
    obtain ⟨fuel, rfl⟩ := Nat.exists_eq_add_one.mpr (Nat.zero_lt_of_lt hfuel)
    obtain ⟨⟨hf, hfback⟩, hfs⟩ := List.forall_mem_cons.mp hfs
    obtain ⟨comma, hcomma, hblank⟩ := exists_comma_eq hl depth
    obtain ⟨q, hq⟩ := exists_printString_eq f.1
    simp only [printFields, hcomma, List.length_append, List.length_cons, List.cons_append,
      List.append_assoc] at hfuel ⊢
    have hends : EndsNumber (',' :: (comma ++ (printString f.1 ++ ':' :: ' ' ::
        (printAt l depth f.2 ++ (printFields l depth fs ++ (sp ++ '}' :: rest)))))) :=
      endsNumber_cons (Or.inl rfl) _
    have htail := @ih f.2 fuel f.1 hf hfback hfs
      (by simp only [List.length_append, List.length_cons]; omega)
    have hfield : (printString k ++ ':' :: ' ' :: printAt l depth v).length ≤ fuel := by
      simp only [List.length_append, List.length_cons]
      omega
    refine ((readFields_field hv hback hends hfield).2 _ (skip_cons_of_not_space rfl)).trans ?_
    rw [hq, List.cons_append] at htail ⊢
    rw [skip_append hblank rfl, htail]
    rfl

theorem readValue_eq_readScalar (hne : c ≠ '"' ∧ c ≠ '[' ∧ c ≠ '{') :
    readValue (fuel + 1) (c :: cs) = readScalar (c :: cs) := by
  obtain ⟨hquote, hlist, hobject⟩ := hne
  rw [readValue]
  · rintro _ ⟨⟩
    exact hquote rfl
  · rintro _ ⟨⟩
    exact hobject rfl
  · rintro _ ⟨⟩
    exact hlist rfl

theorem readValue_null (rest : List Char) :
    readValue (fuel + 1) (printScalar .null ++ rest) = .ok (.null, rest) :=
  (readValue_eq_readScalar (by decide)).trans (readScalar_null rest)

theorem readValue_bool (b : Bool) (rest : List Char) :
    readValue (fuel + 1) (printScalar (.bool b) ++ rest) = .ok (.bool b, rest) := by
  rw [← readScalar_bool]
  cases b <;> exact readValue_eq_readScalar (by decide)

theorem readValue_int {n : Int} (hn : isWritable (.int n) = true) (hrest : EndsNumber rest) :
    readValue (fuel + 1) (printScalar (.int n) ++ rest) = .ok (.int n, rest) := by
  rw [← readScalar_int hn hrest, printScalar]
  obtain ⟨d, ds, hd, h | h⟩ := exists_printInt_eq n
  · rw [h]
    exact readValue_eq_readScalar
      ⟨ne_of_isDigit hd rfl, ne_of_isDigit hd rfl, ne_of_isDigit hd rfl⟩
  · rw [h]
    exact readValue_eq_readScalar (by decide)

theorem readValue_str (s : String) (rest : List Char) (h : (printString s).length ≤ fuel + 1) :
    readValue (fuel + 1) (printString s ++ rest) = .ok (.str s, rest) := by
  have hread := readString_printString s rest h
  obtain ⟨q, hq⟩ := exists_printString_eq s
  rw [hq, List.cons_append] at hread ⊢
  simp [readValue, hread, Except.map]

theorem readValue_list (hc : BeginsValue c) (hsp : ∀ c ∈ sp, isSpace c = true) :
    readValue (fuel + 1) ('[' :: (sp ++ c :: cs)) =
      (readItems fuel (c :: cs)).map fun r => (.arr r.1, r.2) := by
  rw [readValue]
  simp only [skip_append hsp hc.not_space]
  split
  · rename_i h
    exact absurd (List.cons.inj h).1 hc.ne_bracket
  · rfl

theorem readValue_object (hc : BeginsValue c) (hsp : ∀ c ∈ sp, isSpace c = true) :
    readValue (fuel + 1) ('{' :: (sp ++ c :: cs)) = (readFields fuel (c :: cs)).map fun r =>
      (.obj (Assoc.ofList Assoc.sameText r.1), r.2) := by
  rw [readValue]
  simp only [skip_append hsp hc.not_space]
  split
  · rename_i h
    exact absurd (List.cons.inj h).1 hc.ne_brace
  · rfl

theorem readValue_arr (hl : l.Blank) (hvs : ∀ v ∈ vs, v.Plain ∧ ReadsBack l v)
    (hfuel : (printAt l depth (.arr vs)).length ≤ fuel + 1) :
    readValue (fuel + 1) (printAt l depth (.arr vs) ++ rest) = .ok (.arr vs, rest) := by
  cases vs with
  | nil => simp [printAt, readValue, skip, isSpace]
  | cons v vs =>
    obtain ⟨⟨hv, hback⟩, hvs⟩ := List.forall_mem_cons.mp hvs
    obtain ⟨c, cs, hc, hbegins⟩ := exists_printAt_eq l (depth + 1) hv
    simp only [printAt, List.cons_append, List.append_assoc, List.length_cons, List.length_append,
      List.nil_append, List.length_nil] at hfuel ⊢
    have hitems := @readItems_printItems l (l.break depth) rest v vs (depth + 1) fuel hl (hl depth)
      hv hback hvs (by rw [List.length_append]; omega)
    rw [hc, List.cons_append] at hitems ⊢
    rw [readValue_list hbegins (hl _), hitems]
    rfl

theorem readValue_obj (hl : l.Blank) (hkeys : (fs.map (·.1)).Nodup)
    (hfs : ∀ f ∈ fs, f.2.Plain ∧ ReadsBack l f.2)
    (hfuel : (printAt l depth (.obj fs)).length ≤ fuel + 1) :
    readValue (fuel + 1) (printAt l depth (.obj fs) ++ rest) = .ok (.obj fs, rest) := by
  cases fs with
  | nil => simp [printAt, readValue, skip, isSpace]
  | cons f fs =>
    obtain ⟨⟨hv, hback⟩, htail⟩ := List.forall_mem_cons.mp hfs
    obtain ⟨q, hq⟩ := exists_printString_eq f.1
    have hbegins : BeginsValue '"' := ⟨rfl, by decide, by decide, by decide⟩
    simp only [printAt, List.cons_append, List.append_assoc, List.length_cons, List.length_append,
      List.nil_append, List.length_nil] at hfuel ⊢
    have hfields := @readFields_printFields l (l.break depth) rest f.2 fs (depth + 1) fuel f.1 hl
      (hl depth) hv hback htail (by simp only [List.length_append, List.length_cons]; omega)
    rw [hq, List.cons_append] at hfields ⊢
    rw [readValue_object hbegins (hl _), hfields]
    show Except.ok (Value.obj (Assoc.ofList Assoc.sameText (f :: fs)), rest) = _
    rw [Assoc.ofList_eq_self Assoc.sameText_iff hkeys]

/-- The text of a value is not empty, so that reading it needs fuel. -/
theorem readsBack_of_succ (hv : v.Plain) (h : ∀ depth fuel rest,
    (printAt l depth v).length ≤ fuel + 1 → EndsNumber rest →
      readValue (fuel + 1) (printAt l depth v ++ rest) = .ok (v, rest)) : ReadsBack l v := by
  intro depth fuel rest hfuel hrest
  obtain ⟨c, cs, hc, -⟩ := exists_printAt_eq l depth hv
  cases fuel with
  | zero =>
    rw [hc] at hfuel
    cases hfuel
  | succ fuel => exact h depth fuel rest hfuel hrest

/-- A value without floats and without integers that are too long is read back from its text. -/
theorem readsBack (hl : l.Blank) (hv : v.Plain) (hw : isWritable v = true) : ReadsBack l v := by
  induction hv with
  | null => exact readsBack_of_succ .null fun _ _ rest _ _ => readValue_null rest
  | bool b => exact readsBack_of_succ (.bool b) fun _ _ rest _ _ => readValue_bool b rest
  | int n => exact readsBack_of_succ (.int n) fun _ _ _ _ hrest => readValue_int hw hrest
  | str s => exact readsBack_of_succ (.str s) fun _ _ rest h _ => readValue_str s rest h
  | arr h ih =>
    refine readsBack_of_succ (.arr h) fun _ _ _ hfuel _ => readValue_arr hl (fun v hv => ?_) hfuel
    exact ⟨h v hv, ih v hv (itemsWritable_iff.mp hw v hv)⟩
  | obj hkeys h ih =>
    refine readsBack_of_succ (.obj hkeys h) fun _ _ _ hfuel _ =>
      readValue_obj hl hkeys (fun f hf => ?_) hfuel
    exact ⟨h f hf, ih f hf (fieldsWritable_iff.mp hw f hf)⟩

/-- The whole text of a value is read as the value. -/
theorem read_writeIn (hl : l.Blank) (hv : v.Plain) (hw : isWritable v = true) :
    read (writeIn l v) = .ok v := by
  have hall : readAll (printAt l 0 v) = .ok v := by
    have hback := readsBack hl hv hw 0 ((printAt l 0 v).length + 1) [] (Nat.le_succ _)
      fun _ h => by cases h
    rw [List.append_nil] at hback
    obtain ⟨c, cs, hc, hbegins⟩ := exists_printAt_eq l 0 hv
    have hmark : (c :: cs).head? ≠ some (Char.ofNat 0xfeff) :=
      fun h => hbegins.ne_mark (Option.some.inj h)
    rw [hc] at hback ⊢
    rw [readAll, if_neg hmark, skip_cons_of_not_space hbegins.not_space, hback]
    rfl
  rw [read, writeIn, String.toList_ofList, hall]

theorem return_not_mem_printItems (hl : ∀ depth, '\r' ∉ l.comma depth)
    (h : ∀ v ∈ vs, ∀ depth, '\r' ∉ printAt l depth v) (depth : Nat) :
    '\r' ∉ printItems l depth vs := by
  induction vs with
  | nil => exact List.not_mem_nil
  | cons v vs ih =>
    obtain ⟨hv, hvs⟩ := List.forall_mem_cons.mp h
    simp only [printItems, List.mem_append, not_or]
    exact ⟨⟨hl depth, hv depth⟩, ih hvs⟩

theorem return_not_mem_printFields (hl : ∀ depth, '\r' ∉ l.comma depth)
    (h : ∀ f ∈ fs, ∀ depth, '\r' ∉ printAt l depth f.2) (depth : Nat) :
    '\r' ∉ printFields l depth fs := by
  induction fs with
  | nil => exact List.not_mem_nil
  | cons f fs ih =>
    obtain ⟨hf, hfs⟩ := List.forall_mem_cons.mp h
    have hkey := return_not_mem_printString f.1
    simp only [printFields, List.mem_append, List.mem_cons, not_or]
    exact ⟨⟨hl depth, hkey, by decide, by decide, hf depth⟩, ih hfs⟩

theorem return_not_mem_comma (hl : ∀ depth, '\r' ∉ l.break depth) (depth : Nat) :
    '\r' ∉ l.comma depth := by
  cases l with
  | inline => simp [Layout.comma]
  | block unit =>
    rw [Layout.comma, List.mem_cons, not_or]
    exact ⟨by decide, hl depth⟩

/-- Where the layout brings in no carriage return, there is none in the text. -/
theorem return_not_mem_printAt (hl : ∀ depth, '\r' ∉ l.break depth) (hv : v.Plain) (depth : Nat) :
    '\r' ∉ printAt l depth v := by
  have hcomma := return_not_mem_comma hl
  induction hv generalizing depth with
  | null => simp [printAt, printScalar]
  | bool b => cases b <;> simp [printAt, printScalar]
  | int n => exact return_not_mem_printInt n
  | str s => exact return_not_mem_printString s
  | @arr vs h ih =>
    cases vs with
    | nil => simp [printAt]
    | cons v vs =>
      obtain ⟨hv, hvs⟩ := List.forall_mem_cons.mp ih
      have hitems := return_not_mem_printItems hcomma hvs (depth + 1)
      simp [printAt, hl, hv, hitems]
  | @obj fs hkeys h ih =>
    cases fs with
    | nil => simp [printAt]
    | cons f fs =>
      obtain ⟨hf, hfs⟩ := List.forall_mem_cons.mp ih
      have hkey := return_not_mem_printString f.1
      have hfields := return_not_mem_printFields hcomma hfs (depth + 1)
      simp [printAt, hl, hkey, hf, hfields]

theorem return_not_mem_break_spaced (width depth : Nat) :
    '\r' ∉ (Layout.spaced width).break depth := by
  intro h
  rcases List.mem_cons.mp h with h | h
  · exact absurd h (by decide)
  · obtain ⟨unit, hunit, h⟩ := List.mem_flatten.mp h
    rw [(List.mem_replicate.mp hunit).2] at h
    exact absurd (List.mem_replicate.mp h).2 (by decide)

end Json

end VueWrap
