import ClientGen.Document.Basic
import ClientGen.Document.Fault
import ClientGen.Text.Digit

/-!
Pointers into documents: `#/` and tokens between slashes, each the key of an object or the index of
an array. In a key `~0` stands for a tilde and `~1` for a slash.
-/
namespace ClientGen.Pointer

def unescape : List Char → List Char
  | '~' :: '1' :: rest => '/' :: unescape rest
  | '~' :: '0' :: rest => '~' :: unescape rest
  | c :: rest => c :: unescape rest
  | [] => []

def escape : List Char → List Char
  | [] => []
  | c :: rest =>
    if c == '~' then '~' :: '0' :: escape rest
    else if c == '/' then '~' :: '1' :: escape rest
    else c :: escape rest

/-- A key is read back from the token that writes it. -/
theorem unescape_escape (cs : List Char) : unescape (escape cs) = cs := by
  induction cs with
  | nil => rfl
  | cons c rest ih =>
    by_cases tilde : c = '~'
    · simp [escape, unescape, tilde, ih]
    · by_cases slash : c = '/'
      · simp [escape, unescape, slash, ih]
      · simp only [escape, beq_iff_eq, tilde, slash, if_false]
        unfold unescape
        split <;> simp_all

def tokens? (reference : String) : Option (List String) :=
  (Text.dropStart? "#/" reference).map fun path =>
    (path.toList.splitOn '/').map fun token => .ofList (unescape token)

/-- The item at an index. An index below zero counts from the end. -/
def itemAt? (items : List Document) (index : Int) : Option Document :=
  if 0 ≤ index then items[index.toNat]?
  else if (-index).toNat ≤ items.length then items[items.length - (-index).toNat]?
  else none

def step (reference token : String) (value : Document) : Except ReferenceFault Document :=
  match value.untie with
  | .object members =>
    match Members.get? members token with
    | some value => .ok value
    | none => .error (.missingKey reference token)
  | .array items =>
    match Text.integer? token >>= itemAt? items with
    | some value => .ok value
    | none => .error (.badIndex reference token)
  | value => .error (.noContainer reference value.typeName)

def resolve (reference : String) (document : Document) : Except ReferenceFault Document :=
  match tokens? reference with
  | none => .error (.external reference)
  | some tokens => tokens.foldlM (fun value token => step reference token value) document

end ClientGen.Pointer
