import VueWrap.Address
import VueWrap.Metadata
import VueWrap.Traced

/-! # Sources of metadata

A metadata document comes from a file or from a web address. Whatever is wrong
with the source or the document ends in a failure of the source, with few
exceptions: bytes that are no text, integers that are too long, and hosts that
cannot be understood.
-/

namespace VueWrap

/-- What the network answers to a request. A body is given by the text that its bytes stand for. -/
inductive Reply where
  | response (status : Int) (body : String)
  | timedOut
  /-- A report of a bad status with the response it is about. -/
  | badStatus (status : Int)
  /-- A report of a bad status that comes without the response it is about. -/
  | statusOnly
  | broken (reason : String)

abbrev Network := String → Reply

/-- What loading a document leaves behind: records for the log, and requests. -/
inductive Event where
  | note (r : Log.Record)
  | request (url : String) (timeout : Value)

namespace Source

def logger : String := "dx_vue_generator.loader"

def note (level : Log.Level) (message : String) : Traced Event Unit :=
  Traced.emit (.note ⟨level, logger, message⟩)

def failed {α : Type} (e : SourceError) : Except Failure α := .error (.source e)

def parseFile (path text : String) : Except Failure Value :=
  match Json.read text with
  | .ok v => .ok v
  | .error .longInteger => .error .badContent
  | .error (.fault f) => failed (.notJson path f)

def contents (t : FileTree) (path : String) : Except Failure Value :=
  match t.read path with
  | .error o => .error (.ofObstacle (fun c => .source (.unreadable path c)) o)
  | .ok bytes => match FileTree.textOf? bytes with
    | none => .error .notText
    | some text => parseFile path text

def readFile (t : FileTree) (path : String) : Traced Event Value :=
  let path := Path.tidy path
  match t.isFile path with
  | .error c => Traced.fail (.system c)
  | .ok false => Traced.lift (failed (.notFound path))
  | .ok true => do
    note .debug s!"Reading metadata file {path}"
    contents t path

/-- The byte order mark, which may stand at the front of a body. -/
def byteOrderMark : Char := Char.ofNat 0xfeff

/-- The text of a body: without its mark, unless it is too short to be looked at. -/
def bodyText (body : String) : String :=
  match body.toList with
  | c :: cs => if c = byteOrderMark ∧ 3 < body.utf8ByteSize then String.ofList cs else body
  | [] => body

def isRefusal (status : Int) : Bool := 400 ≤ status && status < 600

def document (url : String) (timeout : Value) : Reply → Except Failure Value
  | .timedOut => failed (.timedOut timeout url)
  | .badStatus status => failed (.refused status url)
  | .statusOnly => .error .wrongKind
  | .broken reason => failed (.unreachable url reason)
  | .response status body =>
    if isRefusal status then failed (.refused status url)
    else match Json.read (bodyText body) with
      | .ok v => .ok v
      | .error _ => failed (.badBody url)

def fetch (net : Network) (timeout : Value) (url : String) : Traced Event Value := do
  let address ← Address.ofString url
  if address.host.isEmpty then failed (.noHost url)
  else
    note .debug s!"Fetching metadata from {url} (timeout {timeout.display}s)"
    Traced.emit (.request url timeout)
    document url timeout (net url)

/-- Fetches a document from a value that should be an address. An empty one has no host. -/
def fetchAny (net : Network) (timeout : Value) : Value → Traced Event Value
  | .str url => fetch net timeout url
  | v => if v.isEmpty then failed (.noHost v.display) else Traced.fail .wrongKind

/-- A failure of reading a document as metadata, told with its source. -/
def explain (source : String) : Failure → Failure
  | .missingKey key => .source (.missingKey source key)
  | .wrongKind => .source (.malformed source)
  | e => e

def build (document : Value) (source : String) : Except Failure Metadata :=
  match document with
  | .obj _ => (Metadata.read document).mapError (explain source)
  | _ => failed (.notObject source)

/-- A source that is no web address is the path of a file. -/
def documentOf (t : FileTree) (net : Network) (timeout source : Value) : Traced Event Value := do
  let text := source.display
  if ← Address.isWeb text then fetch net timeout text
  else match source with
    | .str path => readFile t path
    | _ => Traced.fail .wrongKind

def load (t : FileTree) (net : Network) (timeout source : Value) : Traced Event Metadata := do
  let text := source.display
  let document ← documentOf t net timeout source
  let m ← build document text
  note .info
    s!"Loaded {m.widgets.length} widgets and {m.types.length} custom types from {text}"
  return m

def usualTimeout : Value := .int 30

end Source

end VueWrap
