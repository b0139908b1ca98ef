import VueWrap.Text.Quoted

/-! # Flags of the command line

The flags that the program knows, their names, and which of them take a value.
-/

namespace VueWrap.Command

inductive Flag where
  | help
  | edition
  | verbose
  | metadata
  | url
  | config
  | componentsDir
  | indexFile
  | basePath
  | configPath
  | package
  | vueVersion
  | reexports
deriving DecidableEq, Repr

namespace Flag

/-- The names of a flag. The last two of them belong to one that is switched on and off. -/
def names : Flag → List String
  | help => ["-h", "--help"]
  | edition => ["--version"]
  | verbose => ["--verbose", "-v"]
  | metadata => ["--metadata", "-m"]
  | url => ["--url"]
  | config => ["--config"]
  | componentsDir => ["--components-dir"]
  | indexFile => ["--index-file"]
  | basePath => ["--base-component-path"]
  | configPath => ["--config-component-path"]
  | package => ["--widgets-package"]
  | vueVersion => ["--vue-version"]
  | reexports => ["--generate-reexports", "--no-generate-reexports"]

def title (f : Flag) : String := "/".intercalate f.names

/-- A flag that stands for itself. -/
def isSwitch : Flag → Bool
  | help => true
  | edition => true
  | verbose => true
  | reexports => true
  | _ => false

end Flag

inductive Verb where
  | generate
  | inspect
  | initConfig
deriving DecidableEq, Repr

namespace Verb

def all : List Verb := [generate, inspect, initConfig]

def name : Verb → String
  | generate => "generate"
  | inspect => "inspect"
  | initConfig => "init-config"

def ofName? (s : String) : Option Verb := all.find? fun v => v.name = s

end Verb

/-- What a part of the command line consists of: that of the program itself, or that of a
command. -/
inductive Part where
  | program
  | command (v : Verb)
deriving DecidableEq, Repr

namespace Part

def title : Part → String
  | program => "dx-vue-generator"
  | command v => "dx-vue-generator " ++ v.name

def runFlags : List Flag :=
  [.help, .metadata, .url, .config, .componentsDir, .indexFile, .basePath, .configPath, .package,
    .vueVersion, .reexports]

def flags : Part → List Flag
  | program => [.help, .edition, .verbose]
  | command .generate => runFlags
  | command .inspect => runFlags
  | command .initConfig => [.help]

def argument? : Part → Option String
  | command .inspect => some "widget"
  | command .initConfig => some "FILE"
  | _ => none

def needsSource : Part → Bool
  | command .generate => true
  | command .inspect => true
  | _ => false

def names (p : Part) : List (String × Flag) :=
  p.flags.flatMap fun f => f.names.map fun n => (n, f)

def flag? (p : Part) (name : String) : Option Flag := p.names.lookup name

end Part

inductive Misuse where
  | ambiguous (option : String) (names : List String)
  | noValue (f : Flag)
  | ignoredValue (f : Flag) (value : String)
  | notInteger (f : Flag) (value : String)
  | notAmong (f : Flag) (value : Int) (choices : List Int)
  | notCommand (name : String)
  | conflict (f other : Flag)
  | required (argument : String)
  | oneRequired (fs : List Flag)
  | unrecognized (arguments : List String)

namespace Misuse

def commas (texts : List String) : String := ", ".intercalate texts

def spaced (texts : List String) : String := " ".intercalate texts

def choices (texts : List String) : String := s!"(choose from {commas texts})"

def message : Misuse → String
  | ambiguous option names => s!"ambiguous option: {option} could match {commas names}"
  | noValue f => s!"argument {f.title}: expected one argument"
  | ignoredValue f value =>
    s!"argument {f.title}: ignored explicit argument {Text.quoted value}"
  | notInteger f value => s!"argument {f.title}: invalid int value: {Text.quoted value}"
  | notAmong f value cs =>
    s!"argument {f.title}: invalid choice: {value} {choices (cs.map toString)}"
  | notCommand name =>
    s!"argument command: invalid choice: {Text.quoted name} " ++
      choices (Verb.all.map fun v => Text.quoted v.name)
  | conflict f other => s!"argument {f.title}: not allowed with argument {other.title}"
  | required argument => s!"the following arguments are required: {argument}"
  | oneRequired fs => s!"one of the arguments {spaced (fs.map Flag.title)} is required"
  | unrecognized arguments => s!"unrecognized arguments: {spaced arguments}"

end Misuse

end VueWrap.Command
