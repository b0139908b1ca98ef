import VueWrap.Console.Table
import VueWrap.Generation
import VueWrap.Settings.Save
import VueWrap.Source

/-! # Acts of a command

A command reads and writes files, asks the network, prints lines, and leaves
records in the log. What it has done up to a failure stays done.
-/

namespace VueWrap.Command

/-- What a command finds and leaves. -/
structure World where
  tree : FileTree
  network : Network
  printed : List String
  events : List Event

abbrev Act (α : Type) := ExceptT Failure (StateM World) α

variable {α : Type}

def attempt (r : Except Failure α) : Act α := ExceptT.mk (Pure.pure r)

/-- A computation whose trace goes to the log and the network. -/
def follow (x : Traced Event α) : Act α := do
  modify fun w => { w with events := w.events ++ x.trace }
  attempt x.result

def followRecords (x : Traced Log.Record α) : Act α := follow (x.retrace .note)

def printLines (ls : List String) : Act Unit :=
  modify fun w => { w with printed := w.printed ++ ls }

def say (marked : String) : Act Unit := do
  printLines (← attempt (Console.textLines marked))

/-- A task that is shown, if it is not finished. -/
def task (label : String) (x : Act α) : Act α := do
  try x
  catch e =>
    printLines ["⠋ " ++ label]
    throw e

def generateHere (s : Settings) (m : Metadata) : Act Generation.Report := do
  let w ← get
  let (tree, x) := Generation.generate ⟨w.tree.here, .builtIn, .standard, s⟩ m w.tree
  set { w with tree }
  followRecords x

def saveHere (s : Settings) (path : String) : Act Unit := do
  let w ← get
  let tree ← attempt (s.save w.tree (.str path))
  set { w with tree }

end VueWrap.Command
