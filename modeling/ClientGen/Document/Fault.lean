/-!
What can be wrong with a reference from one place of a document to another.
-/
namespace ClientGen

inductive ReferenceFault where
  | external (reference : String)
  | missingKey (reference key : String)
  | badIndex (reference index : String)
  | noContainer (reference kind : String)
deriving DecidableEq, Repr

def ReferenceFault.message : ReferenceFault → String
  | external reference =>
    "External $ref not supported: " ++ reference ++
      ", only internal references (#/...) are handled"
  | missingKey reference key =>
    "Cannot resolve $ref '" ++ reference ++ "': key '" ++ key ++ "' not found"
  | badIndex reference index =>
    "Cannot resolve $ref '" ++ reference ++ "': invalid array index '" ++ index ++ "'"
  | noContainer reference kind =>
    "Cannot resolve $ref '" ++ reference ++ "': cannot navigate into " ++ kind

end ClientGen
