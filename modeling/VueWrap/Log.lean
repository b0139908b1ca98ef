import VueWrap.Failure

/-! # The log

Records with a level and the name of a logger, and the set-up of the root logger.
-/

namespace VueWrap

namespace Log

inductive Level where
  | debug
  | info
deriving DecidableEq, Repr

def Level.number : Level → Int
  | debug => 10
  | info => 20

def Level.name : Level → String
  | debug => "DEBUG"
  | info => "INFO"

structure Record where
  level : Level
  logger : String
  message : String
deriving DecidableEq, Repr

def root : String := "dx_vue_generator"

def loggerName (name : String) : String :=
  if name = root ∨ (root ++ ".").toList.isPrefixOf name.toList then name else root ++ "." ++ name

def levels : List (String × Int) :=
  [("CRITICAL", 50), ("FATAL", 50), ("ERROR", 40), ("WARN", 30), ("WARNING", 30), ("INFO", 20),
    ("DEBUG", 10), ("NOTSET", 0)]

/-- The level that a value names: an integer itself, or the number of a named level. -/
def levelOf : Value → Except Failure Value
  | .int n => .ok (.int n)
  | .bool b => .ok (.bool b)
  | .str s => match levels.lookup s with
    | some n => .ok (.int n)
    | none => .error .badContent
  | _ => .error .wrongKind

structure Setup where
  level : Value
  propagate : Bool
  handlers : Nat

def Setup.fresh : Setup := ⟨.int 0, true, 0⟩

/-- The level below `WARNING` is reached only in a verbose run. -/
def warning : Value := .int 30

/-- The set-up with a level. There is one console handler, however often it is asked for. -/
def configured (level : Value) (verbose : Bool) : Except Failure Setup :=
  match if verbose then .ok (.int 10) else levelOf level with
  | .error e => .error e
  | .ok l => .ok { level := l, propagate := false, handlers := 1 }

end Log

end VueWrap
