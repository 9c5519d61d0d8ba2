import ClientGen.PathTemplate
import ClientGen.Text.Case
import ClientGen.Text.Identifier

/-!
Operation ids: names made from the method and the path alone, so that the same operation has the
same id in every version of a document.
-/
namespace ClientGen.Operation

/-- A literal or variable as part of an id: in lower case, hyphens as underscores. -/
def idPart (s : String) : String :=
  .ofList ((Text.lower s).toList.map fun c => if c == '-' then '_' else c)

/-- The variables that appear in an id: all but a tenant in the first place, which the client
supplies. -/
def idVariables (template : PathTemplate) : List String :=
  match template.variableNames with
  | "tenant" :: rest => rest
  | names => names

/-- The id of a method on a path: method, kind unless it is the plain one, the other literals, then
each variable. -/
def synthesizeId (method : String) (template : PathTemplate) : Except Failure String := do
  let kind ← template.kind template.render
  let kinds := if kind = .allocation then [] else [kind.name]
  let subjects := (PathTemplate.literals template.tail).map idPart
  let parts := [Text.lower method] ++ kinds ++ subjects
  let suffixes := (idVariables template).map fun name => "_by_" ++ idPart name
  let id := "_".intercalate parts ++ String.join suffixes
  if Text.isIdentifier id then return id
  else .error (.invalidOperationId id method template.render)

end ClientGen.Operation
