import VueWrap.Command.Run

/-! # The program

The files that a command line may concern are read, the command is run on what
has been read, and what it changes is written. The program has no network of its
own: every request stays without an answer.
-/

namespace VueWrap.Main

def entryAt (path : String) : IO (Option Entry) := do
  try
    let bytes ← IO.FS.readBinFile path
    return some (.file bytes)
  catch _ =>
    try
      let _ ← IO.FS.realPath path
      return some .dir
    catch _ => return none

/-- The tree with what the system has on the way to a path. -/
def probe (t : FileTree) (path : String) : IO FileTree := do
  let place := FileTree.placeOf t.here path
  let mut t := t
  for n in List.range place.length do
    let way := place.take (n + 1)
    if (t.entry? way).isNone then
      if let some e ← entryAt ("/" ++ "/".intercalate way) then
        t := t.set way e
  return t

def argumentPaths (args : List String) : List String :=
  args.flatMap fun a => a :: ((Command.cutEquals a.toList).2.map String.ofList).toList

def settingsPaths (args : List String) (t : FileTree) : List String :=
  match Command.readArguments args with
  | .ok ⟨_, some (_, g)⟩ =>
    match Settings.load t g.overrides g.config with
    | .ok s => [s.indexFile.display, Path.child s.componentsDir.display Module.sharedIndex]
    | .error _ => []
  | _ => []

def survey (args : List String) : IO FileTree := do
  let here ← IO.currentDir
  let mut t : FileTree := { here := Path.segments s!"{here}", entries := [] }
  for p in "." :: argumentPaths args do
    t ← probe t p
  for p in settingsPaths args t do
    t ← probe t p
  return t

def apply (before after : FileTree) : IO Unit := do
  for (path, e) in FileTree.newSince before after do
    match e with
    | .dir => IO.FS.createDirAll path
    | .file bytes => IO.FS.writeBinFile path bytes

def noNetwork : Network := fun _ => .broken "no network"

def execute (args : List String) : IO UInt32 := do
  let t ← survey args
  let o := Command.run args t noNetwork
  apply t o.world.tree
  for line in o.world.printed do
    IO.println line
  for r in o.records do
    IO.eprintln s!"{r.level.name} {r.message}"
  if !o.complaint.isEmpty then
    IO.eprintln o.complaint
  match o.ending with
  | .exit code => return UInt32.ofNat code
  | .raised e =>
    IO.eprintln (e.message?.getD "The input does not have the form that it needs.")
    return 1

end VueWrap.Main

def main (args : List String) : IO UInt32 := VueWrap.Main.execute args
