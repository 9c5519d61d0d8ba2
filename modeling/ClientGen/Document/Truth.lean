import ClientGen.Document.Basic

/-!
Truth values and what else is taken for one: the numbers zero and one, and a few words in any letter
case.
-/
namespace ClientGen

def truthWords : List String := ["1", "t", "y", "true", "yes", "on"]

def falsehoodWords : List String := ["0", "f", "n", "false", "no", "off"]

def asciiLower (s : String) : String := .ofList (s.toList.map Char.toLower)

def truthOfWord? (s : String) : Option Bool :=
  if truthWords.contains (asciiLower s) then some true
  else if falsehoodWords.contains (asciiLower s) then some false
  else none

def truthOfInt? (n : Int) : Option Bool :=
  if n == 1 then some true else if n == 0 then some false else none

namespace Scalar

def truth? : Scalar → Option Bool
  | bool value => some value
  | int value => truthOfInt? value
  | real value => value.toInt?.bind truthOfInt?
  | text value => truthOfWord? value
  | _ => none

/-- Whether a scalar is of a kind of which some values stand for truth values. -/
def mayBeTruth : Scalar → Bool
  | bool _ | int _ | real _ | text _ => true
  | _ => false

end Scalar

end ClientGen
