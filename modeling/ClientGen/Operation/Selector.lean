import ClientGen.Operation.Basic

/-!
Selectors: the short names of operations, unique for one method. A name that is taken is widened by
the variables of the path; if that is not enough, no client is generated.
-/
namespace ClientGen

namespace Selector

/-- Variables that no selector shows. -/
def hiddenVariables : List String := ["tenant", "manager"]

/-- Variables that only a wide selector shows. -/
def wideVariables : List String := ["id", "appid"]

def part? (wide : Bool) : Segment → Option String
  | .literal text => if text == "allocation" then none else some (Text.lower text)
  | .placeholder name =>
    if hiddenVariables.contains name then none
    else if wide || !wideVariables.contains name then some (Text.lower name)
    else none

def of (template : PathTemplate) (response : ResponseType) (wide : Bool) : String :=
  "-".intercalate (template.filterMap (part? wide)) ++ response.suffix

end Selector

namespace Operation

def wideSelector (operation : Operation) : String :=
  Selector.of operation.template operation.okResponse true

def sortByPath (operations : List Operation) : List Operation :=
  operations.mergeSort fun a b => a.path ≤ b.path

/-- Widens, one after another, each selector that one before has taken. -/
def widen (taken : List String) : List Operation → List Operation
  | [] => []
  | operation :: rest =>
    let operation :=
      if taken.contains operation.selector then
        { operation with selector := operation.wideSelector }
      else operation
    operation :: widen (operation.selector :: taken) rest

end Operation

/-- The texts that stand more than once in a list, each once, in ascending order. -/
def repeated (names : List String) : List String :=
  ((names.filter fun name => 1 < names.count name).eraseDups).mergeSort fun a b => a ≤ b

namespace Operation

def assignSelectors (method : Method) (operations : List Operation) :
    Except Failure (List Operation) :=
  let assigned := widen [] (sortByPath operations)
  match repeated (assigned.map (·.selector)) with
  | [] => .ok assigned
  | duplicates => .error (.duplicateSelectors method duplicates)

/-- Whether an operation comes before another in generated text: by selector, then by method. -/
def precedes (a b : Operation) : Bool :=
  a.selector < b.selector || (a.selector == b.selector && a.method.name ≤ b.method.name)

def sort (operations : List Operation) : List Operation := operations.mergeSort precedes

end Operation

end ClientGen
