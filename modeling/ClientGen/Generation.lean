import ClientGen.Client.Generic
import ClientGen.Client.Wrapped
import ClientGen.Document.Json.Printer
import ClientGen.Document.Update
import ClientGen.Progress
import ClientGen.Settings.Basic
import ClientGen.Source

/-!
The stages from a source to generated text, telling about their progress: load, prepare, collect,
render.
-/
namespace ClientGen

namespace Update

def prunedLine? (paths : List String) (kind : Kind) : Option String :=
  let count := (paths.filter fun path => Text.startsWith path (pathStart kind)).length
  if count == 0 then none
  else some (s!"Pruned {count} path(s) starting with " ++ pathStart kind)

def prunedLines (features : List String) (document : Document) : List String :=
  match ((document.get? "paths").getD (.object [])).untie with
  | .object paths =>
    match paths.mapM fun path => (Document.scalar path.1).text? with
    | some paths => (disabled features).filterMap (prunedLine? paths)
    | none => []
  | _ => []

end Update

namespace Operation

/-- The lines about selectors that are taken, for operations in the order of their paths. -/
def widenedLines (method : Method) (taken : List String) : List Operation → List String
  | [] => []
  | operation :: rest =>
    if taken.contains operation.selector then
      (method.name ++ " " ++ operation.path ++ ": selector '" ++ operation.selector ++
          "' taken, widened to '" ++ operation.wideSelector ++ "'") ::
        widenedLines method (operation.wideSelector :: taken) rest
    else widenedLines method (operation.selector :: taken) rest

end Operation

namespace Generation

def prepare (world : World) (source : String) (features : List String) : Progress Document := do
  Progress.say ("Loading OpenAPI document from " ++ source)
  let draft ← Progress.ofResult (Source.load world source)
  Progress.sayAll (Update.prunedLines features draft.document)
  return (← Progress.ofResult (draft.update features)).document

def collectMethod (document : Document) (idCollection : String) (method : Method) :
    Progress (Method × List Operation) := do
  let operations ← Progress.ofResult do
    (← Operation.rawOf document method).mapM fun (key, operation) =>
      Operation.extractAt method key operation document idCollection
  Progress.sayAll (Operation.widenedLines method [] (Operation.sortByPath operations))
  let assigned ← Progress.ofResult (Operation.assignSelectors method operations)
  Progress.say (method.name ++ s!": {operations.length} operation(s)")
  return (method, Operation.sort assigned)

def collect (document : Document) (idCollection : String) : Progress Collection := do
  Progress.ofResult (Method.unsupported.forM (Operation.refuse document))
  Method.supported.mapM (collectMethod document idCollection)

def generic (document : Document) (settings : Settings) : Progress String := do
  let collection ← collect document settings.idCollectionSchema
  let text ← Progress.ofResult
    (Client.renderGeneric collection settings.modules settings.pathAliases document)
  Progress.say s!"Generic client: {collection.operations.length} operation(s)"
  return text

def wrapped (document : Document) (settings : Settings) : Progress String := do
  let collection ← collect document settings.idCollectionSchema
  let text ← Progress.ofResult
    (Client.renderWrapped (Operation.sort collection.operations) settings.modules document)
  Progress.say s!"Wrapped client: {collection.operations.length} method(s)"
  return text

def documentText (document : Document) : Except Failure String :=
  match Json.write? document with
  | some text => .ok text
  | none => .error .unusable

abbrev Artifacts := List (String × String)

/-- Adds a text under a file name. A name that is there keeps its place and takes the later
text. -/
def addArtifact (artifacts : Artifacts) (name text : String) : Artifacts :=
  if artifacts.any fun artifact => artifact.1 == name then
    artifacts.map fun artifact => if artifact.1 == name then (name, text) else artifact
  else artifacts ++ [(name, text)]

/-- All texts for a prepared document: the document itself where a name is set for it, the generic
and the wrapped module. -/
def artifacts (document : Document) (settings : Settings) : Progress Artifacts := do
  let updated ←
    match settings.updatedSpecFile with
    | none => pure []
    | some name =>
      if name.isEmpty then pure []
      else do pure [(name, ← Progress.ofResult (documentText document))]
  let withGeneric := addArtifact updated settings.genericFile (← generic document settings)
  return addArtifact withGeneric settings.wrappedFile (← wrapped document settings)

end Generation

end ClientGen
