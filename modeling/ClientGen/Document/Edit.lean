import ClientGen.Document.Basic

/-!
Changing a place of a document: each step on the way is the key of an object or the index of an
array or a pair. Pairs themselves stay as they are.
-/
namespace ClientGen.Document

/-- The position among `length` items that a key stands for. A number below zero counts from the
end, and true and false count as one and zero. -/
def position? (length : Nat) (key : Scalar) : Option Nat :=
  match key.canonical, key with
  | _, .real _ => none
  | .int index, _ =>
    if 0 ≤ index then if index.toNat < length then some index.toNat else none
    else if (-index).toNat ≤ length then some (length - (-index).toNat)
    else none
  | _, _ => none

/-- Replaces the value under a key or index by what a function makes of it. -/
def changeAt? (change : Document → Option Document) : Document → Document → Option Document
  | .scalar key, .object members => do
    let value ← change (← Members.find? members key)
    return .object (Members.putKey members key value)
  | .scalar key, .array items => do
    let position ← position? items.length key
    let value ← change (← items[position]?)
    return .array (items.set position value)
  | .scalar key, .pair first second => do
    if (← position? 2 key) == 0 then return .pair (← change first) second
    else return .pair first (← change second)
  | _, _ => none

def setAt? (document : Document) (path : List Document) (value : Document) : Option Document :=
  match path, document with
  | [], _ => none
  | [.scalar key], .object members => some (.object (Members.putKey members key value))
  | [.scalar key], .array items => do
    return .array (items.set (← position? items.length key) value)
  | [_], _ => none
  | key :: rest, document => changeAt? (fun part => part.setAt? rest value) key document

def eraseAt? (document : Document) (path : List Document) : Option Document :=
  match path, document with
  | [], _ => none
  | [.scalar key], .object members => do
    let _ ← Members.find? members key
    return .object (Members.eraseKey members key)
  | [.scalar key], .array items => do
    return .array (items.eraseIdx (← position? items.length key))
  | [_], _ => none
  | key :: rest, document => changeAt? (fun part => part.eraseAt? rest) key document

end ClientGen.Document
