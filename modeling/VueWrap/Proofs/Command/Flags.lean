import VueWrap.Command.Run
import VueWrap.Proofs.Settings.Merge

/-! # Flags that set settings

The flags of a command line are read off its marked arguments. What a setting is
given by them is the value of the last flag that sets it, and a flag that is
given never has the value null, which would say nothing.
-/

namespace VueWrap.Command

open Settings (Name)

variable {p : Part} {g g' : Given} {u : Use} {us : List Use} {n : Name} {f : Flag} {h : Hit}
  {arg name : String} {next : Option String} {b : Bool} {ms : List (String × Mark)}
  {args more : List String} {v : Verb}

def flagOf? : Name → Option Flag
  | .componentsDir => some .componentsDir
  | .indexFile => some .indexFile
  | .extension => none
  | .basePath => some .basePath
  | .configPath => some .configPath
  | .package => some .package
  | .version => some .vueVersion
  | .reexports => some .reexports

/-- What is given for a setting; null if nothing is. -/
def Given.setting (g : Given) : Name → Value
  | .componentsDir => g.componentsDir
  | .indexFile => g.indexFile
  | .extension => .null
  | .basePath => g.basePath
  | .configPath => g.configPath
  | .package => g.package
  | .version => g.version
  | .reexports => g.reexports

/-- The value that a flag is taken with, if it may have the one that it is given. -/
def Use.taken? (u : Use) : Option Value :=
  match u.flag with
  | .vueVersion => (chosenVersion u.given).toOption
  | .reexports => some (.bool (u.name = "--generate-reexports"))
  | _ => some u.given

def Use.setting? (n : Name) (u : Use) : Option Value :=
  if flagOf? n = some u.flag then u.taken? else none

def lastSetting (n : Name) (us : List Use) : Option Value :=
  (us.filterMap (Use.setting? n)).getLast?

/-- The flags in an argument that may take the next one for a value. -/
def Hit.uses (p : Part) (h : Hit) (next : Option String) : List Use :=
  match h.flag with
  | none => []
  | some f =>
    match h.cluster p f with
    | .error _ => []
    | .ok c =>
      match c.pending, next with
      | some (f, name), some value => c.uses ++ [⟨f, name, some value⟩]
      | _, _ => c.uses

def usesIn (p : Part) : List (String × Mark) → List Use
  | [] => []
  | (_, .flag h) :: ms => h.uses p (nextValue ms) ++ usesIn p ms
  | _ :: ms => usesIn p ms

theorem lastSetting_append (n : Name) (us us' : List Use) :
    lastSetting n (us ++ us') = (lastSetting n us').or (lastSetting n us) := by
  rw [lastSetting, List.filterMap_append, List.getLast?_append]
  rfl

theorem lastSetting_singleton (n : Name) (u : Use) : lastSetting n [u] = u.setting? n := by
  rw [lastSetting, List.filterMap_cons]
  cases u.setting? n <;> rfl

/-- The flags `us` make what is given `g'` of what was given before. -/
structure Given.Changes (g : Given) (us : List Use) (g' : Given) : Prop where
  setting : ∀ n, g'.setting n = (lastSetting n us).getD (g.setting n)
  rest : g'.rest = g.rest

theorem Given.Changes.append {us' : List Use} {g₁ : Given} (h : g.Changes us g₁)
    (h' : g₁.Changes us' g') : g.Changes (us ++ us') g' where
  setting n := by rw [h'.setting, h.setting, lastSetting_append, Option.getD_or]
  rest := h'.rest.trans h.rest

theorem changes_leave (g : Given) (arg : String) : g.Changes [] (g.leave arg) where
  setting n := by cases n <;> rfl
  rest := rfl

theorem changes_take (h : g.take p u = .ok g') : g.Changes [u] g' := by
  suffices hset : (∀ n, g'.setting n = (u.setting? n).getD (g.setting n)) ∧ g'.rest = g.rest by
    refine ⟨fun n => ?_, hset.2⟩
    rw [lastSetting_singleton, hset.1]
  obtain ⟨flag, name, value⟩ := u
  cases flag
  case vueVersion =>
    simp only [Given.take] at h
    split at h
    · cases h
    · rename_i v hv
      cases h
      refine ⟨fun n => ?_, rfl⟩
      cases n <;> simp [Given.setting, Use.setting?, flagOf?, Use.taken?, hv, Except.toOption]
  case metadata | url =>
    simp only [Given.take] at h
    split at h <;> cases h
    exact ⟨fun n => by cases n <;> rfl, rfl⟩
  case help | edition => cases h
  all_goals
    cases h
    exact ⟨fun n => by cases n <;> rfl, rfl⟩

theorem changes_takeAll (h : g.takeAll p us = .ok g') : g.Changes us g' := by
  induction us generalizing g with
  | nil =>
    cases h
    exact ⟨fun _ => rfl, rfl⟩
  | cons u us ih =>
    rw [Given.takeAll] at h
    split at h
    · cases h
    · rename_i g₁ hu
      exact (changes_take hu).append (ih h)

/-- An argument with flags changes what is given by all of them, and takes the next argument only
if there is one. -/
theorem takeHit_takes (hhit : takeHit p g arg h next = .ok (g', b)) :
    (∃ g₁, (g₁ = g ∨ g₁ = g.leave arg) ∧ g₁.takeAll p (h.uses p next) = .ok g') ∧
      (b = true → next ≠ none) := by
  unfold takeHit at hhit
  unfold Hit.uses
  cases hflag : h.flag with
  | none =>
    rw [hflag] at hhit
    cases hhit
    exact ⟨⟨_, Or.inr rfl, rfl⟩, fun h => absurd h (by decide)⟩
  | some f =>
    rw [hflag] at hhit
    dsimp only at hhit ⊢
    cases hc : h.cluster p f with
    | error m =>
      rw [hc] at hhit
      cases hhit
    | ok c =>
      rw [hc] at hhit
      dsimp only at hhit ⊢
      cases hpending : c.pending with
      | none =>
        rw [hpending] at hhit
        obtain ⟨g₁, htake, hg⟩ := map_eq_ok_iff.mp hhit
        cases hg
        exact ⟨⟨g, Or.inl rfl, htake⟩, fun h => absurd h (by decide)⟩
      | some use =>
        rw [hpending] at hhit
        cases next with
        | none => cases hhit
        | some value =>
          obtain ⟨g₁, htake, hg⟩ := map_eq_ok_iff.mp hhit
          cases hg
          exact ⟨⟨g, Or.inl rfl, htake⟩, fun _ => Option.some_ne_none value⟩

theorem changes_takeHit (hhit : takeHit p g arg h next = .ok (g', b)) :
    g.Changes (h.uses p next) g' := by
  obtain ⟨⟨g₁, hg₁, htake⟩, -⟩ := takeHit_takes hhit
  have hchanges := changes_takeAll htake
  rcases hg₁ with rfl | rfl
  · exact hchanges
  · exact (changes_leave g arg).append hchanges

/-- Nothing is a flag after two hyphens. -/
def PlainAfterStop (ms : List (String × Mark)) : Prop :=
  ms.Pairwise fun a b => a.2 = .stop → b.2 = .plain

theorem markOf_ne_stop (p : Part) (arg : String) : markOf p arg ≠ .ok .stop := by
  unfold markOf guess
  intro h
  split at h
  · split at h
    · cases h
    · split at h
      · cases h
      · split at h
        · cases h
        · cases h
        · split at h <;> cases h
  · cases h

theorem marked_cons (hne : arg ≠ "--") :
    marked p (arg :: args) = .ok ms ↔
      ∃ m rest, markOf p arg = .ok m ∧ marked p args = .ok rest ∧ ms = (arg, m) :: rest := by
  rw [marked, if_neg hne, bind_eq_ok_iff]
  simp only [bind_eq_ok_iff]
  constructor
  · rintro ⟨m, hm, rest, hrest, h⟩
    cases h
    exact ⟨m, rest, hm, hrest, rfl⟩
  · rintro ⟨m, rest, hm, hrest, rfl⟩
    exact ⟨m, hm, rest, hrest, rfl⟩

theorem plainAfterStop_marked (h : marked p args = .ok ms) : PlainAfterStop ms := by
  induction args generalizing ms with
  | nil =>
    cases h
    exact List.Pairwise.nil
  | cons arg args ih =>
    by_cases hstop : arg = "--"
    · rw [marked, if_pos hstop] at h
      cases h
      have hplain : ∀ a ∈ args.map fun a => (a, Mark.plain), a.2 = .plain := by simp
      apply List.Pairwise.cons
      · intro a ha _
        exact hplain a ha
      · apply List.Pairwise.imp_of_mem (R := fun _ _ => True)
        · intro a b _ hb _ _
          exact hplain b hb
        · exact List.pairwise_of_forall fun _ _ => trivial
    · obtain ⟨m, rest, hm, hrest, rfl⟩ := (marked_cons hstop).mp h
      apply List.Pairwise.cons
      · rintro a - rfl
        exact absurd hm (markOf_ne_stop p arg)
      · exact ih hrest

theorem map_marked (h : marked p args = .ok ms) : ms.map (·.1) = args := by
  induction args generalizing ms with
  | nil =>
    cases h
    rfl
  | cons arg args ih =>
    by_cases hstop : arg = "--"
    · rw [marked, if_pos hstop] at h
      cases h
      rw [List.map_cons, List.map_map]
      exact congrArg _ (List.map_id args)
    · obtain ⟨m, rest, -, hrest, rfl⟩ := (marked_cons hstop).mp h
      rw [List.map_cons, ih hrest]

theorem PlainAfterStop.tail {m : String × Mark} (h : PlainAfterStop (m :: ms)) :
    PlainAfterStop ms :=
  (List.pairwise_cons.mp h).2

theorem usesIn_drop (h : nextValue ms ≠ none) : usesIn p (ms.drop 1) = usesIn p ms := by
  unfold nextValue at h
  split at h
  · rfl
  · exact absurd rfl h

theorem usesIn_afterStop (ms : List (String × Mark)) : usesIn p (afterStop ms) = usesIn p ms := by
  unfold afterStop
  split <;> rfl

theorem plainAfterStop_afterStop (h : PlainAfterStop ms) : PlainAfterStop (afterStop ms) := by
  unfold afterStop
  split
  · exact h.tail
  · exact h

/-- A setting that is read from the arguments of a command has the value of the last flag for
it. -/
theorem setting_scan (hp : p ≠ .program) (hms : PlainAfterStop ms) (h : scan p g ms = .ok g') :
    g'.setting n = (lastSetting n (usesIn p ms)).getD (g.setting n) := by
  fun_induction scan p g ms with
  | case1 g =>
    cases h
    rfl
  | case2 => cases h
  | case3 g arg hit ms g₁ htake ih =>
    rw [ih hms.tail h, (changes_takeHit htake).setting, usesIn, lastSetting_append, Option.getD_or]
  | case4 g arg hit ms g₁ htake ih =>
    have hnext := (takeHit_takes htake).2 rfl
    rw [ih (hms.tail.drop) h, (changes_takeHit htake).setting, usesIn, lastSetting_append,
      Option.getD_or, usesIn_drop hnext]
  | case5 _ _ _ _ hprogram => exact absurd hprogram hp
  | case6 g arg ms _ _ ih =>
    rw [ih (plainAfterStop_afterStop hms.tail) h, usesIn_afterStop]
    cases n <;> rfl
  | case7 g arg ms _ ih =>
    rw [ih hms.tail h, (changes_leave g arg).setting]
    rfl
  | case8 g arg =>
    cases h
    exact (changes_leave g arg).setting n
  | case9 _ _ _ _ _ _ hprogram => exact absurd hprogram hp
  | case10 g arg value m ms _ _ ih =>
    obtain rfl : m = .plain := (List.pairwise_cons.mp hms).1 _ List.mem_cons_self rfl
    rw [ih hms.tail.tail h]
    cases n <;> rfl
  | case11 g arg value m ms _ ih =>
    rw [ih hms.tail h, (changes_leave g arg).setting]
    rfl

/-- The command with all that follows it stands at the end of the arguments. -/
theorem rest_scan (h : scan p g ms = .ok g') :
    g'.rest = g.rest ∨ g'.rest <:+ ms.map (·.1) := by
  fun_induction scan p g ms with
  | case1 =>
    cases h
    exact Or.inl rfl
  | case2 => cases h
  | case3 g arg hit ms g₁ htake ih =>
    rw [← (changes_takeHit htake).rest]
    exact (ih h).imp_right fun hrest => hrest.trans (List.suffix_cons _ _)
  | case4 g arg hit ms g₁ htake ih =>
    rw [← (changes_takeHit htake).rest]
    rw [List.map_drop] at ih
    exact (ih h).imp_right fun hrest =>
      (hrest.trans (List.drop_suffix _ _)).trans (List.suffix_cons _ _)
  | case5 =>
    cases h
    exact Or.inr (List.suffix_refl _)
  | case6 g arg ms _ _ ih =>
    refine (ih h).imp_right fun hrest => (hrest.trans ?_).trans (List.suffix_cons _ _)
    unfold afterStop
    split
    · exact List.suffix_cons _ _
    · exact List.suffix_refl _
  | case7 g arg ms _ ih =>
    exact (ih h).imp_right fun hrest => hrest.trans (List.suffix_cons _ _)
  | case8 =>
    cases h
    exact Or.inl rfl
  | case9 =>
    cases h
    exact Or.inr (List.suffix_refl _)
  | case10 g arg value m ms _ _ ih =>
    exact (ih h).imp_right fun hrest =>
      (hrest.trans (List.suffix_cons _ _)).trans (List.suffix_cons _ _)
  | case11 g arg value m ms _ ih =>
    exact (ih h).imp_right fun hrest => hrest.trans (List.suffix_cons _ _)

/-- Only a switch is given without a value. -/
def Use.Filled (u : Use) : Prop := u.value = none → u.flag.isSwitch = true

theorem Use.Filled.given_ne_null (hu : u.Filled) (hflag : u.flag.isSwitch = false) :
    u.given ≠ .null := by
  unfold Use.given
  split
  · rename_i hnone
    rw [hu hnone] at hflag
    cases hflag
  · exact fun h => nomatch h
  · exact fun h => nomatch h

theorem chosenVersion_ne_null {x y : Value} (hx : x ≠ .null) (h : chosenVersion x = .ok y) :
    y ≠ .null := by
  unfold chosenVersion at h
  split at h
  · split at h
    · cases h
    · split at h <;> cases h
      exact fun h => nomatch h
  · cases h
    exact hx

theorem flagOf?_ne_switch (h : flagOf? n = some f) (hf : f ≠ .reexports) : f.isSwitch = false := by
  cases n <;> cases h <;> first | rfl | exact absurd rfl hf

theorem Use.Filled.setting?_ne_null (hu : u.Filled) : u.setting? n ≠ some .null := by
  unfold Use.setting?
  split
  · rename_i hflag
    unfold Use.taken?
    split
    · rename_i hversion
      have hgiven := hu.given_ne_null (by rw [hversion]; rfl)
      cases hv : chosenVersion u.given with
      | error e => exact fun h => nomatch h
      | ok v => exact fun h => chosenVersion_ne_null hgiven hv (Option.some.inj h)
    · exact fun h => nomatch h
    · rename_i hother
      exact fun h => hu.given_ne_null (flagOf?_ne_switch hflag hother) (Option.some.inj h)
  · exact fun h => nomatch h

theorem filled_some (f : Flag) (name value : String) : (Use.mk f name (some value)).Filled :=
  fun h => nomatch h

/-- Every flag of a cluster that needs a value has one. -/
def Cluster.Filled (c : Cluster) : Prop := ∀ u ∈ c.uses, u.Filled

theorem filled_bare (f : Flag) (name : String) : (Cluster.bare f name).Filled := by
  unfold Cluster.bare
  split
  · rename_i hswitch
    intro u hu _
    rw [List.mem_singleton.mp hu]
    exact hswitch
  · exact fun u hu => nomatch hu

theorem filled_cluster {c : Cluster} {cs : List Char} (h : cluster p f name cs = .ok c) :
    c.Filled := by
  have hvalue : ∀ f name value, Cluster.Filled ⟨[⟨f, name, some value⟩], none⟩ := by
    intro f name value u hu
    rw [List.mem_singleton.mp hu]
    exact filled_some f name value
  induction cs generalizing f name c with
  | nil =>
    unfold cluster at h
    split at h <;> cases h
    exact hvalue f name _
  | cons letter cs ih =>
    unfold cluster at h
    simp only at h
    split at h
    · cases h
      exact hvalue f name _
    · rename_i hswitch
      split at h
      · have hadd : ∀ next : Cluster, next.Filled →
            Cluster.Filled { next with uses := ⟨f, name, none⟩ :: next.uses } := by
          intro next hnext u hu
          rcases List.mem_cons.mp hu with rfl | hu
          · intro _
            simpa using hswitch
          · exact hnext u hu
        split at h
        · exact ((givesOnly_ok (filled_bare _ _)).bind fun c hc => givesOnly_ok (hadd c hc)) _ h
        · exact (GivesOnly.bind (fun c hc => ih hc) fun c hc => givesOnly_ok (hadd c hc)) _ h
      · cases h

theorem filled_uses (p : Part) (h : Hit) (next : Option String) :
    ∀ u ∈ h.uses p next, u.Filled := by
  unfold Hit.uses
  split
  · exact fun u hu => nomatch hu
  · split
    · exact fun u hu => nomatch hu
    · rename_i c hc
      have hfilled : c.Filled := by
        unfold Hit.cluster at hc
        split at hc
        · cases hc
          exact filled_bare _ _
        · exact filled_cluster hc
      split
      · rename_i f' name value _
        intro u hu
        rcases List.mem_append.mp hu with hu | hu
        · exact hfilled u hu
        · rw [List.mem_singleton.mp hu]
          exact filled_some f' name value
      · exact hfilled

theorem filled_usesIn (p : Part) (ms : List (String × Mark)) : ∀ u ∈ usesIn p ms, u.Filled := by
  induction ms with
  | nil => exact fun u hu => nomatch hu
  | cons m ms ih =>
    obtain ⟨arg, mark⟩ := m
    cases mark with
    | flag h =>
      intro u hu
      rcases List.mem_append.mp hu with hu | hu
      · exact filled_uses p h _ u hu
      · exact ih u hu
    | plain => exact ih
    | stop => exact ih

/-- A flag that is given gives its setting a value. -/
theorem lastSetting_usesIn_ne_null (n : Name) (p : Part) (ms : List (String × Mark)) :
    lastSetting n (usesIn p ms) ≠ some .null := by
  intro h
  obtain ⟨u, hu, hnull⟩ := List.mem_filterMap.mp (List.mem_of_getLast? h)
  exact (filled_usesIn p ms u hu).setting?_ne_null hnull

end VueWrap.Command
