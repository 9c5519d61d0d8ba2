import ClientGen.Document.Basic

/-!
Descriptors of operations, as the descriptor table of a generated client holds them.
-/
namespace ClientGen.Client

/-- What the descriptor table tells about an operation. A parameter has a name, a type and perhaps a
description. -/
structure Descriptor where
  path : String
  description : Option String
  parameters : List (String × String × Option String)
  bodyType : Option String
  responseType : Option String
deriving DecidableEq, Repr

namespace Descriptor

def optionalText? : Document → Option (Option String)
  | .null => some none
  | .text s => some (some s)
  | _ => none

def parameter? : Document → Option (String × String × Option String)
  | .array [.text name, .text type, description] => do
    return (name, type, ← optionalText? description)
  | _ => none

def parameters? : Document → Option (List (String × String × Option String))
  | .array items => items.mapM parameter?
  | _ => none

/-- A descriptor from the members of an object. All but the path can be left out. -/
def ofMembers? (members : Members) : Option Descriptor := do
  return {
    path := ← (← Members.get? members "path").text?
    description := ← optionalText? ((Members.get? members "description").getD .null)
    parameters := ← parameters? ((Members.get? members "parameters").getD (.array []))
    bodyType := ← optionalText? ((Members.get? members "body_type").getD .null)
    responseType := ← optionalText? ((Members.get? members "response_type").getD .null) }

end Descriptor

end ClientGen.Client
