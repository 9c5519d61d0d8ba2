import ClientGen.Text.Ranges
import ClientGen.Text.Case.Table

/-!
Upper and lower case of text in every script. One letter may become several, and a capital sigma
becomes the final small sigma at the end of a word.
-/
namespace ClientGen.Text

/-- The shift that the first run holding the code point gives it. -/
def caseShift? (runs : List CaseRun) (code : Nat) : Option Int :=
  (runs.find? fun run =>
    run.first ≤ code && code ≤ run.last && (code - run.first) % run.step == 0).map (·.shift)

/-- A letter mapped by an expansion, else by a run, else kept. -/
def mapCase (expansions : List (Nat × List Nat)) (runs : List CaseRun) (c : Char) : List Char :=
  match expansions.lookup c.toNat with
  | some codes => codes.map Char.ofNat
  | none =>
    match caseShift? runs c.toNat with
    | some shift => [Char.ofNat (c.toNat + shift).toNat]
    | none => [c]

def upperChar (c : Char) : List Char :=
  if c.toNat < 128 then [c.toUpper] else mapCase upperExpansions upperRuns c

def lowerChar (c : Char) : List Char :=
  if c.toNat < 128 then [c.toLower] else mapCase lowerExpansions lowerRuns c

def isCased (c : Char) : Bool :=
  if c.toNat < 128 then c.isAlpha else inRanges casedRanges c.toNat

/-- Whether a character is skipped when the end of a word is looked for. -/
def isCaseIgnorable (c : Char) : Bool := inRanges caseIgnorableRanges c.toNat

def meetsCased (cs : List Char) : Bool :=
  match cs.dropWhile isCaseIgnorable with
  | c :: _ => isCased c
  | [] => false

/-- Lower-cases the rest of a text, given the characters before it, the nearest first. A capital
sigma after a letter and before none becomes the final small sigma. -/
def lowerAfter (before : List Char) : List Char → List Char
  | [] => []
  | 'Σ' :: rest =>
    (if meetsCased before && !meetsCased rest then 'ς' else 'σ') :: lowerAfter ('Σ' :: before) rest
  | c :: rest => lowerChar c ++ lowerAfter (c :: before) rest

def lower (s : String) : String := .ofList (lowerAfter [] s.toList)

def upper (s : String) : String := .ofList (s.toList.flatMap upperChar)

def capitalize (s : String) : String :=
  match s.toList with
  | [] => ""
  | c :: rest => .ofList (upperChar c ++ rest)

def capitalizeAscii (s : String) : String :=
  match s.toList with
  | [] => ""
  | c :: rest => .ofList (c.toUpper :: rest)

end ClientGen.Text
