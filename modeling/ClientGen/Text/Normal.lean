import Std.Data.HashMap
import ClientGen.Text.Hex
import ClientGen.Text.Normal.Table

/-!
Compatibility normalization: characters are replaced by their compatibility decompositions, marks
are put into the order of their classes, and pairs that have a composed character are composed.
Two identifiers with the same normal form are the same name.
-/
namespace ClientGen.Text

def hexNumber (cs : List Char) : Nat :=
  ofDigits 16 (cs.filterMap hexDigit?)

def tableRows (lines : List String) : List (List Nat) :=
  lines.flatMap fun line =>
    (line.toList.splitOn ';').map fun row => (row.splitOn ' ').map hexNumber

def decompositions : Std.HashMap Nat (List Nat) :=
  (tableRows decompositionRows).foldl (fun table row =>
    match row with
    | source :: targets => table.insert source targets
    | [] => table) ∅

def singleDecompositions : List (Nat × Nat × Nat) :=
  (tableRows decompositionRuns).filterMap fun
    | [first, last, target] => some (first, last, target)
    | _ => none

def combiningClasses : List (Nat × Nat × Nat) :=
  (tableRows combiningRuns).filterMap fun
    | [first, last, value] => some (first, last, value)
    | _ => none

def compositions : Std.HashMap (Nat × Nat) Nat :=
  (tableRows compositionRows).foldl (fun table row =>
    match row with
    | [left, right, composed] => table.insert (left, right) composed
    | _ => table) ∅

def combiningClass (code : Nat) : Nat :=
  match combiningClasses.find? fun run => run.1 ≤ code && code ≤ run.2.1 with
  | some run => run.2.2
  | none => 0

/-- The full compatibility decomposition of a code point. Syllables from U+AC00 are taken apart by
the rule that built them: nineteen leads, twenty-one vowels and twenty-seven tails or none. -/
def decompose (code : Nat) : List Nat :=
  if code < 0xA0 then [code]
  else if 0xAC00 ≤ code && code ≤ 0xD7A3 then
    let index := code - 0xAC00
    let syllable := [0x1100 + index / 588, 0x1161 + index % 588 / 28]
    if index % 28 == 0 then syllable else syllable ++ [0x11A7 + index % 28]
  else
    match decompositions[code]? with
    | some codes => codes
    | none =>
      match singleDecompositions.find? fun run => run.1 ≤ code && code ≤ run.2.1 with
      | some run => [run.2.2 + (code - run.1)]
      | none => [code]

def compose? (left right : Nat) : Option Nat :=
  if 0x1100 ≤ left && left ≤ 0x1112 && 0x1161 ≤ right && right ≤ 0x1175 then
    some (0xAC00 + ((left - 0x1100) * 21 + (right - 0x1161)) * 28)
  else if 0xAC00 ≤ left && left ≤ 0xD7A3 && (left - 0xAC00) % 28 == 0 && 0x11A8 ≤ right &&
      right ≤ 0x11C2 then
    some (left + (right - 0x11A7))
  else compositions[(left, right)]?

/-- Orders each run of combining marks by class, equal classes keeping their order. -/
def orderMarks (codes : List Nat) : List Nat :=
  let close (done marks : List Nat) : List Nat :=
    done ++ marks.mergeSort fun a b => combiningClass a ≤ combiningClass b
  let (done, marks) := codes.foldl (fun (done, marks) code =>
    if combiningClass code == 0 then (close done marks ++ [code], []) else (done, marks ++ [code]))
    (([], []) : List Nat × List Nat)
  close done marks

/-- A text under composition: what is finished, the last starter, and the marks after it. -/
structure Cluster where
  finished : List Nat
  starter : Option Nat
  marks : List Nat

/-- Adds a character to the open cluster. It joins the starter if they compose and no mark of its
class or a higher one stands between. -/
def Cluster.add (cluster : Cluster) (code : Nat) : Cluster :=
  let value := combiningClass code
  match cluster.starter with
  | none =>
    if value == 0 then { cluster with starter := some code }
    else { cluster with finished := cluster.finished ++ [code] }
  | some starter =>
    let blocked := match cluster.marks.getLast? with
      | some mark => combiningClass mark == 0 || value ≤ combiningClass mark
      | none => false
    match if blocked then none else compose? starter code with
    | some composed => { cluster with starter := some composed }
    | none =>
      if value == 0 then
        { finished := cluster.finished ++ starter :: cluster.marks, starter := some code,
          marks := [] }
      else { cluster with marks := cluster.marks ++ [code] }

def composePairs (codes : List Nat) : List Nat :=
  let cluster := codes.foldl Cluster.add ⟨[], none, []⟩
  cluster.finished ++ cluster.starter.toList ++ cluster.marks

/-- The normal form of a text. ASCII text is its own normal form. -/
def normalize (s : String) : String :=
  if s.toList.all fun c => c.toNat < 128 then s
  else .ofList ((composePairs (orderMarks (s.toList.flatMap (decompose ·.toNat)))).map Char.ofNat)

end ClientGen.Text
