import VueWrap.Command.Flag
import VueWrap.Json.Value
import VueWrap.Text.Integer

/-! # Reading the command line

Every argument is first marked as a flag or as something else; then the flags are
taken in order, each with its value. The first argument of the program that is
no flag names a command, to which all later ones belong. A flag may be given by
the front of its name if no other flag begins so.
-/

namespace VueWrap.Command

/-- A flag as it is found in an argument: by its name, with a value after an equals sign or right
after a short name. Without a flag, the argument looks like one that does not exist. -/
structure Hit where
  flag : Option Flag
  name : String
  value : Option (List Char)

inductive Mark where
  | plain
  /-- The two hyphens after which nothing is a flag. -/
  | stop
  | flag (h : Hit)

/-- The text before the first equals sign, and the text after it. -/
def cutEquals (cs : List Char) : List Char × Option (List Char) :=
  let name := cs.takeWhile (· != '=')
  match cs.drop name.length with
  | _ :: value => (name, some value)
  | [] => (name, none)

/-- A negative number, which is no flag. A line feed may end it. -/
def isNegative (cs : List Char) : Bool :=
  match cs with
  | '-' :: number =>
    let number := if number.getLast? = some '\n' then number.dropLast else number
    let whole := number.takeWhile Text.isDigit
    match number.drop whole.length with
    | [] => !whole.isEmpty
    | '.' :: fraction => !fraction.isEmpty && fraction.all Text.isDigit
    | _ => false
  | _ => false

/-- The flags of a part that an argument may mean without giving a full name. -/
def guesses (p : Part) (cs : List Char) : List (String × Hit) :=
  match cs with
  | '-' :: '-' :: _ =>
    let (front, value) := cutEquals cs
    (p.names.filter fun n => front.isPrefixOf n.1.toList).map fun n =>
      (n.1, ⟨some n.2, n.1, value⟩)
  | '-' :: c :: rest =>
    (p.names.filter fun n => n.1.toList = ['-', c]).map fun n =>
      (n.1, ⟨some n.2, n.1, some rest⟩)
  | _ => []

/-- The flag that an argument gives by its full name, perhaps with a value. -/
def byName? (p : Part) (arg : String) : Option Hit :=
  match p.flag? arg with
  | some f => some ⟨some f, arg, none⟩
  | none =>
    let (name, value) := cutEquals arg.toList
    match value, p.flag? (String.ofList name) with
    | some v, some f => some ⟨some f, String.ofList name, some v⟩
    | _, _ => none

/-- The mark of an argument that begins with a hyphen and gives no full name. -/
def guess (p : Part) (arg : String) : Except Misuse Mark :=
  match guesses p arg.toList with
  | [g] => .ok (.flag g.2)
  | g :: g' :: gs => .error (.ambiguous arg ((g :: g' :: gs).map (·.1)))
  | [] =>
    if isNegative arg.toList || arg.toList.contains ' ' then .ok .plain
    else .ok (.flag ⟨none, arg, none⟩)

def markOf (p : Part) (arg : String) : Except Misuse Mark :=
  match arg.toList with
  | '-' :: cs =>
    match byName? p arg with
    | some h => .ok (.flag h)
    | none => if cs.isEmpty then .ok .plain else guess p arg
  | _ => .ok .plain

def marked (p : Part) : List String → Except Misuse (List (String × Mark))
  | [] => .ok []
  | arg :: args =>
    if arg = "--" then .ok ((arg, .stop) :: args.map fun a => (a, .plain))
    else do
      let m ← markOf p arg
      let ms ← marked p args
      return (arg, m) :: ms

structure Use where
  flag : Flag
  name : String
  value : Option String

/-- What a flag is given: its value, or no values where two hyphens stand for it. -/
def Use.given (u : Use) : Value :=
  match u.value with
  | none => .null
  | some "--" => .arr []
  | some text => .str text

structure Cluster where
  uses : List Use
  /-- The last flag, where its value has to be the next argument. -/
  pending : Option (Flag × String)

/-- A flag without a value in its argument. -/
def Cluster.bare (f : Flag) (name : String) : Cluster :=
  if f.isSwitch then ⟨[⟨f, name, none⟩], none⟩ else ⟨[], some (f, name)⟩

def isShort (name : String) : Bool := name.toList[1]? != some '-'

def shortName (c : Char) : String := String.ofList ['-', c]

/-- The flags in an argument with a value: a short name of a switch may be followed by the letters
of more short names. -/
def cluster (p : Part) (f : Flag) (name : String) : List Char → Except Misuse Cluster
  | [] =>
    if f.isSwitch then .error (.ignoredValue f "")
    else .ok ⟨[⟨f, name, some ""⟩], none⟩
  | c :: cs =>
    let value := String.ofList (c :: cs)
    if !f.isSwitch then .ok ⟨[⟨f, name, some value⟩], none⟩
    else match isShort name, p.flag? (shortName c) with
      | true, some g => do
        let next ← if cs.isEmpty then .ok (.bare g (shortName c)) else cluster p g (shortName c) cs
        return { next with uses := ⟨f, name, none⟩ :: next.uses }
      | _, _ => .error (.ignoredValue f value)

def Hit.cluster (p : Part) (f : Flag) (h : Hit) : Except Misuse Cluster :=
  match h.value with
  | none => .ok (.bare f h.name)
  | some v => Command.cluster p f h.name v

structure Given where
  verbose : Bool := false
  metadata : Value := .null
  url : Value := .null
  config : Value := .null
  componentsDir : Value := .null
  indexFile : Value := .null
  basePath : Value := .null
  configPath : Value := .null
  package : Value := .null
  version : Value := .null
  reexports : Value := .null
  /-- The argument that a part needs besides flags. -/
  argument : Option String := none
  /-- The command with all that follows it. -/
  rest : List String := []
  extras : List String := []

def isGiven : Value → Bool
  | .null => false
  | _ => true

/-- Why reading ends early: a text is asked for, or the command line is refused. -/
inductive Stop where
  | help (p : Part)
  | edition
  | misuse (p : Part) (m : Misuse)

def versions : List Int := [2, 3]

/-- The version that a text names, if it may be chosen. Without a text there is nothing to
check. -/
def chosenVersion : Value → Except Misuse Value
  | .str text =>
    match Text.integer? text with
    | none => .error (.notInteger .vueVersion text)
    | some n =>
      if versions.contains n then .ok (.int n) else .error (.notAmong .vueVersion n versions)
  | v => .ok v

/-- Takes a flag with its value. Two sources of metadata exclude each other. -/
def Given.take (p : Part) (g : Given) (u : Use) : Except Stop Given :=
  let refuse (m : Misuse) : Except Stop Given := .error (.misuse p m)
  let v := u.given
  match u.flag with
  | .help => .error (.help p)
  | .edition => .error .edition
  | .verbose => .ok { g with verbose := true }
  | .metadata =>
    if isGiven g.url then refuse (.conflict .metadata .url) else .ok { g with metadata := v }
  | .url =>
    if isGiven g.metadata then refuse (.conflict .url .metadata) else .ok { g with url := v }
  | .config => .ok { g with config := v }
  | .componentsDir => .ok { g with componentsDir := v }
  | .indexFile => .ok { g with indexFile := v }
  | .basePath => .ok { g with basePath := v }
  | .configPath => .ok { g with configPath := v }
  | .package => .ok { g with package := v }
  | .vueVersion =>
    match chosenVersion v with
    | .error m => refuse m
    | .ok v => .ok { g with version := v }
  | .reexports => .ok { g with reexports := .bool (u.name = "--generate-reexports") }

/-- The argument that a part is waiting for: any one of the program, which names a command, or one
that is missing. -/
def Given.awaits (p : Part) (g : Given) : Bool :=
  match p with
  | .program => g.rest.isEmpty
  | _ => p.argument?.isSome && g.argument.isNone

def Given.takeAll (p : Part) (g : Given) : List Use → Except Stop Given
  | [] => .ok g
  | u :: us =>
    match g.take p u with
    | .error e => .error e
    | .ok g' => g'.takeAll p us

def Given.leave (g : Given) (arg : String) : Given := { g with extras := g.extras ++ [arg] }

/-- Reads the flags of an argument with a value that may stand in the next one, and says whether
it does. -/
def takeHit (p : Part) (g : Given) (arg : String) (h : Hit) (next : Option String) :
    Except Stop (Given × Bool) :=
  match h.flag with
  | none => .ok (g.leave arg, false)
  | some f =>
    match h.cluster p f with
    | .error m => .error (.misuse p m)
    | .ok c =>
      match c.pending, next with
      | none, _ => (g.takeAll p c.uses).map fun g => (g, false)
      | some (f, name), some value =>
        (g.takeAll p (c.uses ++ [⟨f, name, some value⟩])).map fun g => (g, true)
      | some (f, _), none => .error (.misuse p (.noValue f))

/-- The argument that follows, unless it is a flag. -/
def nextValue : List (String × Mark) → Option String
  | (value, .plain) :: _ => some value
  | _ => none

/-- The arguments after the two hyphens that may follow one. -/
def afterStop : List (String × Mark) → List (String × Mark)
  | (_, .stop) :: ms => ms
  | ms => ms

theorem length_afterStop_le (ms : List (String × Mark)) : (afterStop ms).length ≤ ms.length := by
  unfold afterStop
  split <;> simp

def scan (p : Part) (g : Given) : List (String × Mark) → Except Stop Given
  | [] => .ok g
  | (arg, .flag h) :: ms =>
    match takeHit p g arg h (nextValue ms) with
    | .error e => .error e
    | .ok (g', false) => scan p g' ms
    | .ok (g', true) => scan p g' (ms.drop 1)
  | (arg, .plain) :: ms =>
    if g.awaits p then
      if p = .program then .ok { g with rest := arg :: ms.map (·.1) }
      else scan p { g with argument := some arg } (afterStop ms)
    else scan p (g.leave arg) ms
  | (arg, .stop) :: [] => .ok (g.leave arg)
  | (arg, .stop) :: (value, m) :: ms =>
    if g.awaits p then
      if p = .program then .ok { g with rest := arg :: value :: ms.map (·.1) }
      else scan p { g with argument := some value } ms
    else scan p (g.leave arg) ((value, m) :: ms)
termination_by ms => ms.length
decreasing_by
  · exact Nat.lt_succ_self _
  · simp only [List.length_drop, List.length_cons]
    omega
  · exact Nat.lt_succ_of_le (length_afterStop_le _)
  · exact Nat.lt_succ_self _
  · simp only [List.length_cons]
    omega
  · exact Nat.lt_succ_self _

def Given.check (p : Part) (g : Given) : Except Stop Given :=
  match p.argument?, g.argument with
  | some name, none => .error (.misuse p (.required name))
  | _, _ =>
    if p.needsSource && !isGiven g.metadata && !isGiven g.url then
      .error (.misuse p (.oneRequired [.metadata, .url]))
    else .ok g

def readPart (p : Part) (args : List String) : Except Stop Given :=
  match marked p args with
  | .error m => .error (.misuse p m)
  | .ok ms => do
    let g ← scan p {} ms
    g.check p

/-- What is to be done, and whether it is to be told in full. -/
structure Invocation where
  verbose : Bool
  task : Option (Verb × Given)

def noneLeft (extras : List String) : Except Stop Unit :=
  if extras.isEmpty then .ok () else .error (.misuse .program (.unrecognized extras))

def readArguments (args : List String) : Except Stop Invocation := do
  let g ← readPart .program args
  match g.rest with
  | [] =>
    noneLeft g.extras
    return ⟨g.verbose, none⟩
  | name :: more =>
    match Verb.ofName? name with
    | none => .error (.misuse .program (.notCommand name))
    | some v =>
      let inner ← readPart (.command v) more
      noneLeft (g.extras ++ inner.extras)
      return ⟨g.verbose, some (v, inner)⟩

end VueWrap.Command
