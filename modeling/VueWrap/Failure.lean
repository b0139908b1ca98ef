import VueWrap.FileTree
import VueWrap.Json.Display
import VueWrap.Json.Read

/-! # Failures

Each part of the program has its own causes of failure; the wording of a cause
is in its `message`. A failure without wording is a value that does not have the
form that a step needs.
-/

namespace VueWrap

inductive SettingsError where
  | notFound (path : String)
  | notJson (path : String)
  | invalid (path : String) (fault : Json.Fault)
  | unreadable (path : String) (cause : Cause)
  | notObject (path : String)
  | unwritable (path : String) (cause : Cause)

def SettingsError.message : SettingsError → String
  | notFound path => s!"Configuration file not found: {path}"
  | notJson path => s!"Configuration file must be JSON: {path}"
  | invalid path fault => s!"Invalid JSON in configuration file {path}: {fault.message}"
  | unreadable path cause => s!"Failed to load configuration file {path}: {cause.describe path}"
  | notObject path => s!"Configuration file must contain a JSON object: {path}"
  | unwritable path cause => s!"Failed to save configuration to {path}: {cause.describe path}"

inductive TemplateError where
  | noDirectory (path : String)
  | notFound (name : String)
  | unrenderable (name : String)
  | unsupportedVersion (version : Value)

def TemplateError.message : TemplateError → String
  | noDirectory path => s!"Template directory not found: {path}"
  | notFound name => s!"Template not found: {name}"
  | unrenderable name => s!"Failed to render template {name}"
  | unsupportedVersion version => s!"Unsupported Vue version: {version.display}"

inductive GenerationError where
  | unwritable (path : String) (cause : Cause)
  | noDirectory (path : String) (cause : Cause)

def GenerationError.message : GenerationError → String
  | unwritable path cause => s!"Failed to write {path}: {cause.describe path}"
  | noDirectory path cause => s!"Failed to create directory {path}: {cause.describe path}"

inductive SourceError where
  | notFound (path : String)
  | unreadable (path : String) (cause : Cause)
  | notJson (path : String) (fault : Json.Fault)
  | noHost (url : String)
  | timedOut (timeout : Value) (url : String)
  | refused (status : Int) (url : String)
  | unreachable (url reason : String)
  | badBody (url : String)
  | notObject (source : String)
  | missingKey (source : String) (key : Value)
  | malformed (source : String)

def SourceError.message : SourceError → String
  | notFound path => s!"Metadata file not found: {path}"
  | unreadable path cause => s!"Cannot read metadata file {path}: {cause.describe path}"
  | notJson path fault =>
    s!"Metadata file {path} is not valid JSON (line {fault.line}): {fault.problem.message}"
  | noHost url => s!"Invalid metadata URL: {url}"
  | timedOut timeout url => s!"Timed out after {timeout.display}s fetching {url}"
  | refused status url => s!"Server answered {status} for {url}"
  | unreachable url reason => s!"Cannot fetch {url}: {reason}"
  | badBody url => s!"Response from {url} is not valid JSON"
  | notObject source => s!"Metadata must be a JSON object: {source}"
  | missingKey source key => s!"Metadata from {source} is missing required key {key.literal}"
  | malformed source => s!"Malformed metadata in {source}"

inductive CommandError where
  | notUrl (text : String)
  | noWidget (name : String)

def CommandError.message : CommandError → String
  | notUrl text => s!"--url expects an http(s) URL: {text}"
  | noWidget name => s!"Widget not found: {name}"

inductive Failure where
  /-- A value of the wrong kind. -/
  | wrongKind
  /-- An object without a key that it has to have. -/
  | missingKey (key : Value)
  /-- A value of the right kind that cannot be used. -/
  | badContent
  /-- Bytes that are no text. -/
  | notText
  /-- A text that has no bytes. -/
  | unencodable
  /-- A refusal of the system where none is expected. -/
  | system (cause : Cause)
  /-- A closing tag in printed text without an open one. -/
  | markup
  /-- A value in a table that is no text. -/
  | unprintable
  | settings (e : SettingsError)
  | template (e : TemplateError)
  | generation (e : GenerationError)
  | source (e : SourceError)
  | command (e : CommandError)

/-- The failure of an operation on files; only what the system refuses is told as `told` does. -/
def Failure.ofObstacle (told : Cause → Failure) : Obstacle → Failure
  | .refused c => told c
  | .zero => .badContent
  | .noBytes => .unencodable

def Failure.message? : Failure → Option String
  | .missingKey key => some key.literal
  | .settings e => some e.message
  | .template e => some e.message
  | .generation e => some e.message
  | .source e => some e.message
  | .command e => some e.message
  | _ => none

end VueWrap
