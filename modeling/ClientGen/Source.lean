import ClientGen.Document.Yaml.Reader
import ClientGen.Failure
import ClientGen.Text.Blank
import ClientGen.Text.Case
import ClientGen.World

/-!
Loading documents from the standard input, the web or a file. JSON is tried before YAML unless the
source says which of the two it holds.
-/
namespace ClientGen.Source

inductive Hint where
  | unknown
  | json
  | yaml
deriving DecidableEq, Repr

def requireObject (draft : Draft) : Except Failure Draft :=
  let document := draft.document
  if document.isObject then .ok draft
  else .error (.notAnObject (if document.isNull then "empty document" else document.typeName))

def parseYaml (text : String) (fault : Option Json.Fault) : Except Failure Draft :=
  match Yaml.read text with
  | .ok draft => requireObject draft
  | .error .malformed => .error (.invalidNotation text fault)
  | .error .impossible => .error .unusable

def parse (text : String) (hint : Hint) : Except Failure Draft :=
  if hint == .yaml then parseYaml text none
  else
    match Json.read text with
    | .ok document => requireObject (.tree document)
    | .error fault =>
      if hint == .json then .error (.invalidJson text fault) else parseYaml text (some fault)

/-- The version of the format that a document names. Only the third is supported. -/
def version (document : Document) : Except Failure String :=
  if !document.isObject then .error .unusable
  else
    match document.get? "swagger", document.get "openapi" with
    | some old, _ => .error (.oldFormat old)
    | none, .null => .error .missingVersion
    | none, version =>
      if Text.startsWith version.display "3." then .ok version.display
      else .error (.unsupportedVersion version.display)

def hintOfType (contentType : String) : Hint :=
  if Text.contains contentType "json" then .json
  else if Text.contains contentType "yaml" || Text.contains contentType "yml" then .yaml
  else .unknown

def hintOfPath (path : FilePath) : Hint :=
  let suffix := Text.lower path.suffix
  if suffix == ".json" then .json
  else if suffix == ".yaml" || suffix == ".yml" then .yaml
  else .unknown

def fetch (world : World) (url : String) : Except Failure (String × Hint) :=
  match world.web url with
  | .unreachable reason => .error (.fetchFailed url reason)
  | .page status contentType body =>
    if 200 ≤ status && status < 300 then .ok (body, hintOfType contentType)
    else .error (.fetchStatus status url)

/-- The text of a file with its hint. A NUL stands in no file name, and a name that is too long
cannot even be asked for. -/
def readFile (world : World) (source : String) : Except Failure (String × Hint) :=
  let path := FilePath.parse source
  if path.hasNul then .error (.sourceNotFound source)
  else if world.disk.walk path == .tooLong then .error .unusable
  else
    match world.disk.readText? path with
    | some text => .ok (text, hintOfPath path)
    | none => .error (.sourceNotFound source)

def isUrl (source : String) : Bool :=
  Text.startsWith source "http://" || Text.startsWith source "https://"

/-- The text of a source with its hint. A hyphen is the standard input. -/
def text (world : World) (source : String) : Except Failure (String × Hint) :=
  if source == "-" then .ok (Text.unified world.input, .unknown)
  else if isUrl source then fetch world source
  else readFile world source

def loadDraft (world : World) (source : String) : Except Failure Draft := do
  let (content, hint) ← text world source
  if (Text.trim content).isEmpty then
    .error (.emptySource (if source == "-" then "stdin" else source))
  else parse content hint

def load (world : World) (source : String) : Except Failure Draft := do
  let draft ← loadDraft world source
  let _ ← version draft.document
  return draft

end ClientGen.Source
