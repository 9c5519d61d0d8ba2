import ClientGen.PathTemplate
import ClientGen.Schema.Body

/-!
Operations: one method on one path, with the types of what goes in and what comes out.
-/
namespace ClientGen

/-- One method on one path. The tenant and the authorization header are no parameters: the client
supplies them. -/
structure Operation where
  method : Method
  path : String
  template : PathTemplate
  description : Option String
  parameters : List Parameter
  requiresToken : Bool
  body : Option BodyType
  operationId : String
  selector : String
  okResponse : ResponseType
  okResponses : List (Nat × ResponseType)
  errorResponses : List (Nat × ResponseType)
  kind : Kind
deriving DecidableEq, Repr

/-- The operations of each method, in the order of the generated text. -/
abbrev Collection := List (Method × List Operation)

def Collection.operations (collection : Collection) : List Operation :=
  collection.flatMap (·.2)

end ClientGen
