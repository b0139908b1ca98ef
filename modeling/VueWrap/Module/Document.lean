import VueWrap.FileTree
import VueWrap.Module.Values

/-! # Documents

The text of a module comes from the renderer, or from a directory of plain
texts that replaces it. A text of a directory is read when the module is
written, so a document is a description that is looked up in a file tree.
-/

namespace VueWrap.Module

inductive Templates where
  | builtIn
  | directory (path : String)
deriving DecidableEq, Repr

def Templates.ofDirectory (t : FileTree) : Value → Except Failure Templates
  | .str s => match t.isDir s with
    | .error c => .error (.system c)
    | .ok false => .error (.template (.noDirectory s))
    | .ok true => .ok (.directory s)
  | _ => .error .wrongKind

/-- The texts in a directory, or those of the renderer where none is given. -/
def Templates.of (t : FileTree) (path : Value) : Except Failure Templates :=
  if path.isEmpty then .ok .builtIn else ofDirectory t path

inductive Document where
  | text (cs : List Char)
  | file (directory name : String)
  | none (e : Failure)

/-- The path of a template, which may not leave its directory. -/
def templatePath? (directory name : String) : Option String :=
  let pieces := (Text.splitAt '/' name.toList).map String.ofList
  if ".." ∈ pieces then .none
  else some ((pieces.filter fun p => !p.isEmpty && p != ".").foldl Path.join (Path.tidy directory))

def template (t : FileTree) (directory name : String) : Except Failure (List Char) :=
  match templatePath? directory name with
  | .none => .error (.template (.notFound name))
  | some path =>
    match t.read path with
    | .error _ => .error (.template (.notFound name))
    | .ok bytes => match FileTree.textOf? bytes with
      | .none => .error (.template (.unrenderable name))
      | some s => .ok s.toList

def Document.look (t : FileTree) : Document → Except Failure (List Char)
  | text cs => .ok cs
  | file directory name => template t directory name
  | none e => .error e

def componentTemplate : String := "component.ts.j2"

def indexTemplate : String := "index.ts.j2"

def sharedTemplate : String := "common_reexports.ts.j2"

/-- What is rendered, where all of its values can be written. -/
def Document.rendered (template : String) (writable : Bool) (cs? : Option (List Char)) : Document :=
  match writable, cs? with
  | true, some cs => .text cs
  | _, _ => .none (.template (.unrenderable template))

/-- The document of a component, for the version and the package that the settings name. -/
def componentDocument (ts : Templates) (package version reexports : Value) (c : Component) :
    Document :=
  match VueVersion.of? version with
  | .none => .none (.template (.unsupportedVersion version))
  | some v =>
    let t : Target := ⟨package, v, reexports.holds⟩
    if !t.joins c then .none .badContent
    else match ts with
      | .directory d => .file d componentTemplate
      | .builtIn => .rendered componentTemplate c.isWritable (component t c)

def indexDocument (ts : Templates) (entries : List Entry) : Document :=
  match ts with
  | .directory d => .file d indexTemplate
  | .builtIn => .rendered indexTemplate (entries.all Entry.isWritable) (some (index entries))

/-- The document of a group of shared exports, whose names are given as one value. -/
def sharedDocument (ts : Templates) (package key names : Value) : Document :=
  match names.items? with
  | .none => .none .wrongKind
  | some ns =>
    match ts with
    | .directory d => .file d sharedTemplate
    | .builtIn => .rendered sharedTemplate (Json.itemsWritable (package :: key :: ns))
        (some (shared package key ns))

end VueWrap.Module
