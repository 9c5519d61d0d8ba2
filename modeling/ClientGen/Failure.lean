import ClientGen.Document.Fault
import ClientGen.Document.Json.Reader
import ClientGen.Operation.Method

/-!
Everything that can stop the generation of a client, as causes. Each cause has a category, which
decides the exit code of the program, and one wording.
-/
namespace ClientGen

inductive Category where
  | general
  | usage
  | settings
  | reading
  | specification
  | schema
  | kind
  | method
  | selectors
  | writing
  | unexpected
deriving DecidableEq, Repr

namespace Category

def exitCode : Category → Int
  | general | settings | unexpected => 1
  | usage => 2
  | reading => 7
  | specification | schema | kind | method => 8
  | selectors => 9
  | writing => 10

def parent? : Category → Option Category
  | general | unexpected => none
  | schema | kind | method => some specification
  | usage | settings | reading | specification | selectors | writing => some general

/-- The category and those above it, from the most special to the most general. -/
def lineage (category : Category) : List Category :=
  match category.parent? with
  | none => [category]
  | some parent => category :: parent :: parent.parent?.toList

end Category

inductive SchemaShape where
  | typed (type : Document)
  | combined (combinator : String)
  | untyped
deriving DecidableEq, Repr

def SchemaShape.describe : SchemaShape → String
  | typed type => "type '" ++ type.display ++ "'"
  | combined combinator => combinator
  | untyped => "untyped schema"

/-- What is wrong with one setting: where it stands, the rule it breaks, and the rule in words. -/
structure SettingFault where
  field : String
  index : Option Nat
  rule : String
  text : String
deriving DecidableEq, Repr

/-- Why a client cannot be generated. `unusable` stands for every value of a kind that the job has
no use for. -/
inductive Failure where
  | unusable
  | malformedSegment (segment path : String)
  | pathWithoutKind (path : String)
  | unknownKind (literal path : String)
  | invalidOperationId (operationId method path : String)
  | reference (fault : ReferenceFault)
  | circularReference (chain : List String)
  | unsupportedValue (value : Document)
  | unsupportedSchema (shape : SchemaShape)
  | unsupportedResponse (shape : SchemaShape)
  | arrayWithoutItems
  | mapWithoutValues
  | parameterWithoutName (operationId : String)
  | parameterWithoutSchema (name operationId : String)
  | unsupportedParameterType (name operationId : String) (shape : SchemaShape)
  | patternAndEnum (name operationId : String)
  | bodyWithoutSchema
  | responseWithoutSchema
  | bodyMediaTypes (types : List String)
  | unresolvableParameter (fault : ReferenceFault)
  | unsupportedParameter (value : Document)
  | missingOperationId (method : Method) (path : String)
  | noTenantParameter (method : Method) (path : String)
  | noOkResponse (method : Method) (path : String)
  | unsupportedMethod (method : Method) (paths : List String)
  | duplicateSelectors (method : Method) (selectors : List String)
  | invalidTypeName (text : String)
  | duplicateHandlers (names : List String)
  | duplicateMethods (names : List String)
  | duplicateArguments (method : Method) (path : String) (names : List String)
  | emptySource (origin : String)
  | sourceNotFound (path : String)
  | fetchStatus (status : Int) (url : String)
  | fetchFailed (url reason : String)
  | invalidJson (text : String) (fault : Json.Fault)
  | invalidNotation (text : String) (fault : Option Json.Fault)
  | notAnObject (found : String)
  | oldFormat (version : Document)
  | missingVersion
  | unsupportedVersion (version : String)
  | invalidProjectFile (path text : String) (fault : Json.Fault)
  | projectNotObject (path : String)
  | invalidSettings (faults : List SettingFault)
  | noSource
  | unknownMethod (name : String)
  | methodNotSupported (method : Method)
  | notWritten (path : String)
deriving DecidableEq, Repr

namespace Failure

def category : Failure → Category
  | unusable => .unexpected
  | malformedSegment .. | invalidOperationId .. | circularReference .. | missingOperationId ..
  | noTenantParameter .. | noOkResponse .. | invalidTypeName .. | duplicateHandlers ..
  | duplicateMethods .. | duplicateArguments .. => .specification
  | pathWithoutKind .. | unknownKind .. => .kind
  | unsupportedValue .. | unsupportedSchema .. | unsupportedResponse .. | arrayWithoutItems
  | mapWithoutValues | parameterWithoutName .. | parameterWithoutSchema ..
  | unsupportedParameterType .. | patternAndEnum .. | bodyWithoutSchema | responseWithoutSchema
  | bodyMediaTypes .. | unresolvableParameter .. | unsupportedParameter .. => .schema
  | unsupportedMethod .. => .method
  | duplicateSelectors .. => .selectors
  | reference .. | emptySource .. | sourceNotFound .. | fetchStatus .. | fetchFailed ..
  | invalidJson .. | invalidNotation .. | notAnObject .. | oldFormat .. | missingVersion
  | unsupportedVersion .. => .reading
  | invalidProjectFile .. | projectNotObject .. | invalidSettings .. => .settings
  | noSource | unknownMethod .. | methodNotSupported .. => .usage
  | notWritten .. => .writing

def listed (names : List String) : String := ", ".intercalate names

def message : Failure → String
  | unusable => ""
  | malformedSegment segment path =>
    "malformed path segment '" ++ segment ++ "' in path template '" ++ path ++ "'"
  | pathWithoutKind path => "path '" ++ path ++ "' does not start with an operation kind"
  | unknownKind literal path =>
    "unrecognized operation kind '" ++ literal ++ "' in path '" ++ path ++ "'"
  | invalidOperationId operationId method path =>
    "operation id '" ++ operationId ++ "' for " ++ method ++ " " ++ path ++
      " is not a valid identifier"
  | reference fault => fault.message
  | circularReference chain => "circular reference " ++ " -> ".intercalate chain
  | unsupportedValue value => "unsupported schema " ++ value.quoted
  | unsupportedSchema shape => "unsupported schema with " ++ shape.describe
  | unsupportedResponse shape => "unsupported response schema with " ++ shape.describe
  | arrayWithoutItems => "array schema without items"
  | mapWithoutValues => "object schema without an additionalProperties schema"
  | parameterWithoutName operationId => "parameter without a name in operation " ++ operationId
  | parameterWithoutSchema name operationId =>
    "parameter '" ++ name ++ "' of operation " ++ operationId ++ " must be described by a schema"
  | unsupportedParameterType name operationId shape =>
    "parameter '" ++ name ++ "' of operation " ++ operationId ++ " has " ++ shape.describe ++
      ", only strings are supported"
  | patternAndEnum name operationId =>
    "parameter '" ++ name ++ "' of operation " ++ operationId ++
      " has both a pattern and an enum"
  | bodyWithoutSchema => "json request body without schema"
  | responseWithoutSchema => "json response without schema"
  | bodyMediaTypes types =>
    "unsupported request body media type(s): " ++
      (if (listed types).isEmpty then "none" else listed types)
  | unresolvableParameter fault => "unresolvable parameter reference: " ++ fault.message
  | unsupportedParameter value => "unsupported parameter " ++ value.quoted
  | missingOperationId method path => "missing operation id for " ++ method.name ++ " " ++ path
  | noTenantParameter method path =>
    method.name ++ " " ++ path ++ " has no tenant parameter before the Authorization header"
  | noOkResponse method path => "no 2xx response defined for " ++ method.name ++ " " ++ path
  | unsupportedMethod method paths =>
    method.name ++ " method is not supported (" ++ listed paths ++ ")"
  | duplicateSelectors method selectors =>
    "duplicate selectors for " ++ method.name ++ " method (" ++ listed selectors ++ ")"
  | invalidTypeName text => "'" ++ text ++ "' is not a valid type name"
  | duplicateHandlers names => "duplicate handler names (" ++ listed names ++ ")"
  | duplicateMethods names => "duplicate wrapped method names (" ++ listed names ++ ")"
  | duplicateArguments method path names =>
    method.name ++ " " ++ path ++ ": parameters map to the same argument name (" ++
      listed names ++ ")"
  | emptySource origin => "OpenAPI document from " ++ origin ++ " is empty"
  | sourceNotFound path => "OpenAPI document not found: " ++ path
  | fetchStatus status url => s!"HTTP {status} fetching OpenAPI document from " ++ url
  | fetchFailed url reason => "Failed to fetch OpenAPI document from " ++ url ++ ": " ++ reason
  | invalidJson text fault => "Invalid JSON: " ++ fault.message text
  | invalidNotation text fault =>
    "Failed to parse OpenAPI document as JSON or YAML" ++
      match fault with
      | some fault => "\n  JSON error: " ++ fault.message text
      | none => ""
  | notAnObject found => "OpenAPI document must be an object (got " ++ found ++ ")"
  | oldFormat version =>
    "Swagger " ++ version.display ++
      " is not supported, only OpenAPI 3.x documents can be processed"
  | missingVersion => "Missing 'openapi' field. Is this an OpenAPI 3.x document?"
  | unsupportedVersion version =>
    "Unsupported OpenAPI version: " ++ version ++ ", only 3.x is supported"
  | invalidProjectFile path text fault =>
    "Invalid project config at " ++ path ++ ": " ++ fault.message text
  | projectNotObject path =>
    "Invalid project config at " ++ path ++ ": expected a JSON object"
  | invalidSettings _ => "Invalid configuration"
  | noSource =>
    "No OpenAPI document configured. Pass SPEC, set DSH_API_BUILD_SPEC or add 'spec' to " ++
      "dsh-api-build.json"
  | unknownMethod name => "Unknown method '" ++ name ++ "'"
  | methodNotSupported method => method.name ++ " method is not supported"
  | notWritten path => "Failed to write " ++ path

end Failure

end ClientGen
