import VueWrap.Registry
import VueWrap.Text.Case
import VueWrap.Traced

/-! # Resolving types

A resolver turns the types named by an option into tokens, each once, in the
order in which they are first met. A table gives the tokens of the basic types;
any other name stands for the types of its definition, and a name that is met
again inside its own definition is not followed. One unrestricted type makes
the whole option unrestricted.

`expand` is the recursive resolution, which removes repetitions at every level.
`walk` records what the resolution meets, step by step.
-/

namespace VueWrap

/-- The tokens of the basic types, by their names in small letters. -/
structure Resolver where
  table : List (String × List Value)

namespace Resolver

def objectToken : Value := .str "Object"

def arrayToken : Value := .str "Array"

def functionToken : Value := .str "Function"

def stringToken : Value := .str "String"

def standard : Resolver where
  table :=
    [("string", [stringToken]), ("number", [.str "Number"]), ("boolean", [.str "Boolean"]),
      ("object", [objectToken]), ("array", [arrayToken]), ("function", [functionToken]),
      ("event", [functionToken]), ("date", [.str "Date"]),
      ("template", [functionToken, objectToken, stringToken])]

/-- The entry of an override: its name in small letters, and its tokens. -/
def override (f : String × Value) : Except Failure (String × List Value) :=
  match f.2.items? with
  | some tokens => .ok (Text.lower f.1, tokens)
  | none => .error .wrongKind

/-- The basic types with overrides, which replace entries and add new ones. -/
def withOverrides (overrides : Value) : Except Failure Resolver :=
  if overrides.isEmpty then .ok standard
  else match overrides with
    | .obj fs => do
      let entries ← fs.mapM override
      return ⟨Assoc.update Assoc.sameText standard.table entries⟩
    | _ => .error .wrongKind

inductive Meaning where
  /-- The unrestricted type. -/
  | any
  /-- A name that is no text. -/
  | nameless
  /-- An entry of the table. -/
  | tokens (ts : List Value)
  /-- A name that nothing defines. -/
  | unknown (name : String)
  /-- A definition without types. -/
  | blank
  /-- A definition that stands for other types. -/
  | alias (name : String) (types : List TypeRef)

variable (r : Resolver) (g : Registry)

def meaningOf (name : String) : Meaning :=
  let key := Text.lower name
  if key = "any" then .any
  else match Assoc.get? Assoc.sameText r.table key with
    | some ts => .tokens ts
    | none => match g.get? (.str name) with
      | none => .unknown name
      | some d => if d.types.isEmpty then .blank else .alias name d.types

def meaning (t : TypeRef) : Meaning :=
  match t.type with
  | .str name => r.meaningOf g name
  | _ => .nameless

/-- The number of definitions whose names are not being followed. -/
def unvisited (visiting : List String) : Nat :=
  g.entries.countP fun e => !visiting.any fun n => e.1.same (.str n)

theorem eq_str_of_same {v : Value} {s : String} (h : v.same (.str s) = true) : v = .str s := by
  cases v <;> simp_all [Value.same, Value.number?]

theorem exists_same_of_get? {α β : Type} {same : α → α → Bool} {es : List (α × β)} {k : α} {v : β}
    (h : Assoc.get? same es k = some v) : ∃ e ∈ es, same e.1 k = true := by
  induction es with
  | nil => cases h
  | cons e es ih =>
    unfold Assoc.get? at h
    split at h
    · rename_i hs
      exact ⟨e, by simp, hs⟩
    · obtain ⟨e', he, hs⟩ := ih h
      exact ⟨e', by simp [he], hs⟩

theorem countP_lt_countP {α : Type} {p q : α → Bool} {l : List α} (hpq : ∀ a ∈ l, p a → q a)
    {a : α} (ha : a ∈ l) (hp : p a = false) (hq : q a = true) : l.countP p < l.countP q := by
  induction l with
  | nil => cases ha
  | cons b l ih =>
    have hmono : l.countP p ≤ l.countP q :=
      List.countP_mono_left fun c hc h => hpq c (by simp [hc]) h
    rcases List.mem_cons.mp ha with rfl | ha
    · rw [List.countP_cons_of_neg (by simp [hp]), List.countP_cons_of_pos hq]
      exact Nat.lt_succ_of_le hmono
    · have hlt := ih (fun c hc h => hpq c (by simp [hc]) h) ha
      by_cases hb : p b = true
      · rw [List.countP_cons_of_pos hb, List.countP_cons_of_pos (hpq b (by simp) hb)]
        exact Nat.succ_lt_succ hlt
      · rw [List.countP_cons_of_neg hb]
        by_cases hb' : q b = true
        · rw [List.countP_cons_of_pos hb']
          exact Nat.lt_succ_of_lt hlt
        · rwa [List.countP_cons_of_neg hb']

theorem get?_of_meaningOf_eq_alias {n name : String} {types : List TypeRef}
    (h : r.meaningOf g n = .alias name types) :
    n = name ∧ ∃ d, g.get? (.str name) = some d ∧ d.types = types := by
  simp only [meaningOf] at h
  split at h
  · cases h
  · split at h
    · cases h
    · split at h
      · cases h
      · rename_i d hd
        split at h
        · cases h
        · cases h
          exact ⟨rfl, d, hd, rfl⟩

theorem get?_of_meaning_eq_alias {t : TypeRef} {name : String} {types : List TypeRef}
    (h : r.meaning g t = .alias name types) :
    ∃ d, g.get? (.str name) = some d ∧ d.types = types := by
  unfold meaning at h
  split at h
  · exact (get?_of_meaningOf_eq_alias r g h).2
  · cases h

/-- A name that is followed for the first time leaves fewer names to be followed. -/
theorem unvisited_lt {visiting : List String} {t : TypeRef} {name : String} {types : List TypeRef}
    (hm : r.meaning g t = .alias name types) (hn : name ∉ visiting) :
    unvisited g (name :: visiting) < unvisited g visiting := by
  obtain ⟨d, hd, -⟩ := get?_of_meaning_eq_alias r g hm
  obtain ⟨e, he, hs⟩ := exists_same_of_get? hd
  refine countP_lt_countP (a := e) (fun a _ h => ?_) he ?_ ?_
  · simp only [List.any_cons, Bool.not_or, Bool.and_eq_true] at h
    exact h.2
  · simp [hs]
  · simp only [Bool.not_eq_true', List.any_eq_false]
    intro n hmem hsame
    have h₁ := eq_str_of_same hs
    rw [h₁] at hsame
    have h₂ := eq_str_of_same hsame
    cases h₂
    exact hn hmem

inductive Stop where
  | unrestricted
  | nameless
deriving DecidableEq, Repr

/-- A token at the end, unless it is there already. -/
def addToken (tokens : List Value) (token : Value) : List Value :=
  if tokens.any fun t => t.same token then tokens else tokens ++ [token]

def merge (tokens more : List Value) : List Value := more.foldl addToken tokens

mutual

/-- The tokens of one type, inside the definitions of the names `visiting`. -/
def expandOne (visiting : List String) (t : TypeRef) : Except Stop (List Value) :=
  match _h : r.meaning g t with
  | .any => .error .unrestricted
  | .nameless => .error .nameless
  | .tokens ts => .ok ts
  | .unknown _ => .ok [objectToken]
  | .blank => .ok [objectToken]
  | .alias name types =>
    if _hn : name ∈ visiting then .ok [objectToken]
    else expand (name :: visiting) [] types
termination_by (unvisited g visiting, 0)
decreasing_by exact Prod.Lex.left _ _ (unvisited_lt r g _h _hn)

/-- The tokens of some types after the tokens `found`, inside the definitions of `visiting`. -/
def expand (visiting : List String) (found : List Value) :
    List TypeRef → Except Stop (List Value)
  | [] => .ok found
  | t :: ts =>
    match expandOne visiting t with
    | .error e => .error e
    | .ok tokens => expand visiting (merge found tokens) ts
termination_by ts => (unvisited g visiting, ts.length + 1)
decreasing_by
  · exact Prod.Lex.right _ (Nat.succ_pos _)
  · exact Prod.Lex.right _ (Nat.lt_succ_self _)

end

/-- The tokens of some types; none for unrestricted ones. -/
def resolve (types : List TypeRef) : Except Failure (List Value) :=
  match expand r g [] [] types with
  | .ok tokens => .ok tokens
  | .error .unrestricted => .ok []
  | .error .nameless => .error .wrongKind

/-- A step of a resolution: a type that is not followed, or the way into a definition and out of
it. -/
inductive Step where
  | leaf (m : Meaning)
  | enter (name : String)
  | leave (name : String)

/-- The steps taken, and whether the resolution goes on after them. -/
structure Walk where
  steps : List Step
  goesOn : Bool

mutual

/-- The steps of one type. A name is left even where the resolution ends inside its definition. -/
def walkOne (visiting : List String) (t : TypeRef) : Walk :=
  match h : r.meaning g t with
  | .any => ⟨[.leaf .any], false⟩
  | .nameless => ⟨[.leaf .nameless], false⟩
  | .alias name types =>
    if hn : name ∈ visiting then ⟨[.leaf (.alias name types)], true⟩
    else
      let inner := walk (name :: visiting) types
      ⟨.enter name :: inner.steps ++ [.leave name], inner.goesOn⟩
  | m => ⟨[.leaf m], true⟩
termination_by (unvisited g visiting, 0)
decreasing_by exact Prod.Lex.left _ _ (unvisited_lt r g h hn)

def walk (visiting : List String) : List TypeRef → Walk
  | [] => ⟨[], true⟩
  | t :: ts =>
    let first := walkOne visiting t
    if first.goesOn then
      let rest := walk visiting ts
      ⟨first.steps ++ rest.steps, rest.goesOn⟩
    else first
termination_by ts => (unvisited g visiting, ts.length + 1)
decreasing_by
  · exact Prod.Lex.right _ (Nat.succ_pos _)
  · exact Prod.Lex.right _ (Nat.lt_succ_self _)

end

/-- The undefined names that a resolution meets. -/
def unknowns (types : List TypeRef) : List String :=
  (r.walk g [] types).steps.filterMap fun s => match s with
    | .leaf (.unknown name) => some name
    | _ => none

def logger : String := "dx_vue_generator.codegen.core.types"

/-- The tokens of some types, with a record for every undefined name. -/
def resolved (types : List TypeRef) : Traced Log.Record (List Value) where
  trace := (r.unknowns g types).map fun name =>
    ⟨.debug, logger, s!"Unknown type '{name}' resolved to {objectToken.display}"⟩
  result := r.resolve g types

@[simp] theorem result_resolved (types : List TypeRef) :
    (r.resolved g types).result = r.resolve g types := rfl

end Resolver

end VueWrap
