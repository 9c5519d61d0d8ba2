import ClientGen.Document.Basic

/-!
Writing documents as JSON text, each member and item on a line of its own, two spaces deeper than
its container. A pair is written as an array. Values that JSON cannot write have no text.
-/
namespace ClientGen.Json

/-- How written documents spell the values of double precision that have no digits. -/
def documentNames : Decimal.SpecialNames := ⟨"Infinity", "NaN"⟩

def scalarText? : Scalar → Option String
  | .null => some "null"
  | .bool value => some (if value then "true" else "false")
  | .int value => some (toString value)
  | .real value => some (value.toText documentNames)
  | .text value => some (Text.quote value)
  | .date _ | .moment _ | .bytes _ => none

/-- The text of a member's key: text as it is, another scalar as the text that writes it. -/
def keyText? : Scalar → Option String
  | .text value => some (Text.quote value)
  | key => (scalarText? key).map fun text => "\"" ++ text ++ "\""

def newline (depth : Nat) : String := .ofList ('\n' :: List.replicate (2 * depth) ' ')

def bracketed (opening closing : String) (depth : Nat) : List String → String
  | [] => opening ++ closing
  | items =>
    opening ++ newline (depth + 1) ++ ("," ++ newline (depth + 1)).intercalate items ++
      newline depth ++ closing

mutual

def valueText? (depth : Nat) : Document → Option String
  | .scalar value => scalarText? value
  | .array items => (itemTexts? (depth + 1) items).map (bracketed "[" "]" depth)
  | .object members => (memberTexts? (depth + 1) members).map (bracketed "\x7b" "\x7d" depth)
  | .pair first second => do
    let texts := [← valueText? (depth + 1) first, ← valueText? (depth + 1) second]
    return bracketed "[" "]" depth texts
  | .set _ | .knot _ _ | .back _ => none

def itemTexts? (depth : Nat) : List Document → Option (List String)
  | [] => some []
  | item :: rest => do return (← valueText? depth item) :: (← itemTexts? depth rest)

def memberTexts? (depth : Nat) : List (Scalar × Document) → Option (List String)
  | [] => some []
  | (key, value) :: rest => do
    return ((← keyText? key) ++ ": " ++ (← valueText? depth value)) :: (← memberTexts? depth rest)

end

def write? (d : Document) : Option String := (valueText? 0 d).map (· ++ "\n")

end ClientGen.Json
