import ClientGen.Document.Pointer
import ClientGen.Failure

/-!
References between objects of a document. A value that is a reference stands for the value it leads
to, except for references to schemas, whose names are what the generated code needs.
-/
namespace ClientGen.Reference

def schemaPlace : String := "#/components/schemas/"

/-- The reference to follow from a value: a text that does not lead to a schema. -/
def next? (value : Document) : Option String :=
  match value.get? "$ref" with
  | some (.text reference) =>
    if Text.startsWith reference schemaPlace then none else some reference
  | _ => none

mutual

def pending : Document → List String
  | .object members =>
    (next? (.object members)).toList ++ pendingMembers members
  | .array items => pendingItems items
  | .pair first second => pending first ++ pending second
  | .knot _ content => pending content
  | _ => []

def pendingItems : List Document → List String
  | [] => []
  | item :: rest => pending item ++ pendingItems rest

def pendingMembers : List (Scalar × Document) → List String
  | [] => []
  | (_, value) :: rest => pending value ++ pendingMembers rest

end

/-- Follows references from a value. `seen` holds the references followed so far, and `fuel` bounds
their number. -/
def follow (document : Document) :
    (fuel : Nat) → (seen : List String) → Document → Except Failure Document
  | fuel, seen, value =>
    match next? value with
    | none => .ok value
    | some reference =>
      if seen.contains reference then .error (.circularReference (seen ++ [reference]))
      else
        match Pointer.resolve reference document with
        | .error fault => .error (.reference fault)
        | .ok target =>
          match fuel with
          | 0 => .error (.circularReference (seen ++ [reference]))
          | fuel + 1 => follow document fuel (seen ++ [reference]) target

/-- The value that a value stands for. Every reference but the first stands in the document, so
their number bounds how many different ones can be followed. -/
def resolve (document value : Document) : Except Failure Document :=
  if (next? value).isNone then .ok value
  else follow document ((pending document).length + 1) [] value

end ClientGen.Reference
