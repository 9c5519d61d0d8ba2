import ClientGen.Document.Scalar
import ClientGen.Text.Search

/-!
Documents: trees of scalars, arrays and objects. An object is a list of members in the order in
which they were written, each key once; a repeated key keeps its place and takes the later value.
Pairs, sets and collections that hold themselves come from YAML only.
-/
namespace ClientGen

/-- A tree of values. A `knot` is a collection that holds itself: inside it, the way `back` to its
mark stands for the whole knot. -/
inductive Document where
  | scalar (value : Scalar)
  | array (items : List Document)
  | pair (first second : Document)
  | object (members : List (Scalar × Document))
  | set (keys : List Scalar)
  | knot (mark : Nat) (content : Document)
  | back (mark : Nat)
deriving Repr

abbrev Members := List (Scalar × Document)

namespace Document

@[match_pattern] abbrev null : Document := .scalar .null

@[match_pattern] abbrev text (s : String) : Document := .scalar (.text s)

@[match_pattern] abbrev bool (b : Bool) : Document := .scalar (.bool b)

@[match_pattern] abbrev int (n : Int) : Document := .scalar (.int n)

mutual

def beq : Document → Document → Bool
  | .scalar a, .scalar b => a == b
  | .array a, .array b => beqItems a b
  | .pair a b, .pair c d => beq a c && beq b d
  | .object a, .object b => beqMembers a b
  | .set a, .set b => a == b
  | .knot m a, .knot n b => m == n && beq a b
  | .back m, .back n => m == n
  | _, _ => false

def beqItems : List Document → List Document → Bool
  | [], [] => true
  | a :: as, b :: bs => beq a b && beqItems as bs
  | _, _ => false

def beqMembers : List (Scalar × Document) → List (Scalar × Document) → Bool
  | [], [] => true
  | (k, a) :: as, (l, b) :: bs => k == l && beq a b && beqMembers as bs
  | _, _ => false

end

instance : BEq Document := ⟨beq⟩

mutual

theorem eq_of_beq : ∀ {a b : Document}, beq a b = true → a = b
  | .scalar _, b, h => by cases b <;> simp_all [beq]
  | .array a, b, h => by
    cases b with
    | array b => rw [eq_of_beqItems (a := a) (b := b) (by simpa [beq] using h)]
    | _ => simp [beq] at h
  | .pair a b, d, h => by
    cases d with
    | pair c d =>
      simp only [beq, Bool.and_eq_true] at h
      rw [eq_of_beq h.1, eq_of_beq h.2]
    | _ => simp [beq] at h
  | .object a, b, h => by
    cases b with
    | object b => rw [eq_of_beqMembers (a := a) (b := b) (by simpa [beq] using h)]
    | _ => simp [beq] at h
  | .set _, b, h => by cases b <;> simp_all [beq]
  | .knot m a, b, h => by
    cases b with
    | knot n b =>
      simp only [beq, Bool.and_eq_true, beq_iff_eq] at h
      rw [h.1, eq_of_beq h.2]
    | _ => simp [beq] at h
  | .back _, b, h => by cases b <;> simp_all [beq]

theorem eq_of_beqItems : ∀ {a b : List Document}, beqItems a b = true → a = b
  | [], [], _ => rfl
  | a :: as, b :: bs, h => by
    simp only [beqItems, Bool.and_eq_true] at h
    rw [eq_of_beq h.1, eq_of_beqItems h.2]
  | [], _ :: _, h => by simp [beqItems] at h
  | _ :: _, [], h => by simp [beqItems] at h

theorem eq_of_beqMembers : ∀ {a b : List (Scalar × Document)}, beqMembers a b = true → a = b
  | [], [], _ => rfl
  | (k, a) :: as, (l, b) :: bs, h => by
    simp only [beqMembers, Bool.and_eq_true, beq_iff_eq] at h
    rw [h.1.1, eq_of_beq h.1.2, eq_of_beqMembers h.2]
  | [], _ :: _, h => by simp [beqMembers] at h
  | _ :: _, [], h => by simp [beqMembers] at h

end

mutual

theorem beq_refl : ∀ a : Document, beq a a = true
  | .scalar _ => by simp [beq]
  | .array a => by simp [beq, beqItems_refl a]
  | .pair a b => by simp [beq, beq_refl a, beq_refl b]
  | .object a => by simp [beq, beqMembers_refl a]
  | .set _ => by simp [beq]
  | .knot _ a => by simp [beq, beq_refl a]
  | .back _ => by simp [beq]

theorem beqItems_refl : ∀ a : List Document, beqItems a a = true
  | [] => rfl
  | a :: as => by simp [beqItems, beq_refl a, beqItems_refl as]

theorem beqMembers_refl : ∀ a : List (Scalar × Document), beqMembers a a = true
  | [] => rfl
  | (k, a) :: as => by simp [beqMembers, beq_refl a, beqMembers_refl as]

end

instance : LawfulBEq Document where
  eq_of_beq := eq_of_beq
  rfl := beq_refl _

instance : DecidableEq Document := fun a b => decidable_of_iff (a == b) beq_iff_eq

mutual

/-- A value with a whole knot in the place of each way back to its mark. -/
def refill (mark : Nat) (whole : Document) : Document → Document
  | .array items => .array (refillItems mark whole items)
  | .pair first second => .pair (refill mark whole first) (refill mark whole second)
  | .object members => .object (refillMembers mark whole members)
  | .knot inner content =>
    if inner == mark then .knot inner content else .knot inner (refill mark whole content)
  | .back other => if other == mark then whole else .back other
  | document => document

/-- Items with a whole knot in the place of each way back to its mark. -/
def refillItems (mark : Nat) (whole : Document) : List Document → List Document
  | [] => []
  | item :: rest => refill mark whole item :: refillItems mark whole rest

/-- Members with a whole knot in the place of each way back to its mark. -/
def refillMembers (mark : Nat) (whole : Document) :
    List (Scalar × Document) → List (Scalar × Document)
  | [] => []
  | (key, value) :: rest => (key, refill mark whole value) :: refillMembers mark whole rest

end

/-- The value with its collection on the outside: a knot opened once, any other value as it is. -/
def untie : Document → Document
  | .knot mark content => refill mark (.knot mark content) content
  | document => document

@[simp] theorem untie_scalar (value : Scalar) : (scalar value).untie = scalar value := rfl

@[simp] theorem untie_array (items : List Document) : (array items).untie = array items := rfl

@[simp] theorem untie_pair (first second : Document) :
    (pair first second).untie = pair first second := rfl

@[simp] theorem untie_object (members : Members) : (object members).untie = object members := rfl

@[simp] theorem untie_set (keys : List Scalar) : (set keys).untie = set keys := rfl

/-- A value inside of knots, each given by its mark, as a value on its own. -/
def closed (around : List (Nat × Document)) (document : Document) : Document :=
  around.foldl (fun document knot => refill knot.1 knot.2 document) document

end Document

namespace Members

def find? {α : Type} (members : List (Scalar × α)) (key : Scalar) : Option α :=
  (List.find? (fun member => member.1.same key) members).map (·.2)

def get? {α : Type} (members : List (Scalar × α)) (name : String) : Option α :=
  find? members (.text name)

def has {α : Type} (members : List (Scalar × α)) (name : String) : Bool :=
  (get? members name).isSome

/-- Sets the value under a key, in its place, or at the end for a new key. -/
def putKey {α : Type} : List (Scalar × α) → Scalar → α → List (Scalar × α)
  | [], key, value => [(key, value)]
  | (k, v) :: rest, key, value =>
    if k.same key then (k, value) :: rest else (k, v) :: putKey rest key value

/-- Sets the value of a named member, in its place, or at the end for a new name. -/
def put {α : Type} (members : List (Scalar × α)) (name : String) (value : α) :
    List (Scalar × α) :=
  putKey members (.text name) value

theorem get?_put_same {α : Type} (members : List (Scalar × α)) (name : String) (value : α) :
    get? (put members name value) name = some value := by
  unfold put get? find?
  induction members with
  | nil => simp [putKey, Scalar.same_text]
  | cons member rest ih =>
    obtain ⟨key, old⟩ := member
    by_cases h : key.same (.text name) = true
    · simp [putKey, h]
    · simp only [Bool.not_eq_true] at h
      simpa [putKey, h] using ih

/-- Setting one member leaves the others as they are. -/
theorem get?_put_of_ne {α : Type} (members : List (Scalar × α)) {name other : String}
    (value : α) (different : name ≠ other) :
    get? (put members name value) other = get? members other := by
  unfold put get? find?
  induction members with
  | nil => simp [putKey, Scalar.same_text, different]
  | cons member rest ih =>
    obtain ⟨key, old⟩ := member
    by_cases h : key.same (.text name) = true
    · have named : key.canonical = .text name := by simpa [Scalar.same] using h
      have apart : key.same (.text other) = false := by simp [Scalar.same, named, different]
      simp [putKey, h, apart]
    · simp only [Bool.not_eq_true] at h
      by_cases found : key.same (.text other) = true
      · simp [putKey, h, found]
      · simp only [Bool.not_eq_true] at found
        simpa [putKey, h, found] using ih

/-- Of two values that are set one after the other the second stays. -/
theorem put_put_same {α : Type} (members : List (Scalar × α)) (name : String)
    (first second : α) : put (put members name first) name second = put members name second := by
  unfold put
  induction members with
  | nil => simp [putKey, Scalar.same_text]
  | cons member rest ih =>
    obtain ⟨key, old⟩ := member
    by_cases h : key.same (.text name) = true
    · simp [putKey, h]
    · simp only [Bool.not_eq_true] at h
      simpa [putKey, h] using ih

/-- Setting the value that is there changes nothing. -/
theorem put_of_get? {α : Type} {members : List (Scalar × α)} {name : String} {value : α}
    (h : get? members name = some value) : put members name value = members := by
  unfold put
  unfold get? find? at h
  induction members with
  | nil => simp at h
  | cons member rest ih =>
    obtain ⟨key, old⟩ := member
    by_cases hkey : key.same (.text name) = true
    · simp only [List.find?_cons, hkey, Option.map_some, Option.some.injEq] at h
      simp [putKey, hkey, h]
    · simp only [Bool.not_eq_true] at hkey
      simp only [List.find?_cons, hkey] at h
      simpa [putKey, hkey] using ih h

/-- The value of a member that is there can be set before or after that of another. -/
theorem put_put_of_ne {α : Type} {members : List (Scalar × α)} {name other : String}
    (different : name ≠ other) (h : has members name = true) (value added : α) :
    put (put members other added) name value = put (put members name value) other added := by
  unfold put
  unfold has get? find? at h
  induction members with
  | nil => simp at h
  | cons member rest ih =>
    obtain ⟨key, old⟩ := member
    by_cases hname : key.same (.text name) = true
    · have named : key.canonical = .text name := by simpa [Scalar.same] using hname
      have apart : key.same (.text other) = false := by simp [Scalar.same, named, different]
      simp [putKey, hname, apart]
    · simp only [Bool.not_eq_true] at hname
      simp only [List.find?_cons, hname] at h
      by_cases hother : key.same (.text other) = true
      · simp [putKey, hname, hother]
      · simp only [Bool.not_eq_true] at hother
        simpa [putKey, hname, hother] using ih h

def eraseKey {α : Type} (members : List (Scalar × α)) (key : Scalar) : List (Scalar × α) :=
  members.filter fun member => !member.1.same key

/-- Members read one after another, each put to those before. -/
def ofList {α : Type} (pairs : List (Scalar × α)) : List (Scalar × α) :=
  pairs.foldl (fun members pair => putKey members pair.1 pair.2) []

end Members

namespace Document

def get? (d : Document) (name : String) : Option Document :=
  match d.untie with
  | .object members => Members.get? members name
  | _ => none

@[simp] theorem get?_object (members : Members) (name : String) :
    (object members).get? name = Members.get? members name := rfl

def get (d : Document) (name : String) : Document := (d.get? name).getD null

def isObject (d : Document) : Bool :=
  match d.untie with
  | .object _ => true
  | _ => false

def isNull : Document → Bool
  | .scalar .null => true
  | _ => false

def text? : Document → Option String
  | .scalar (.text s) => some s
  | _ => none

/-- Whether the value counts as nothing: null, false, zero, or empty. -/
def isVoid : Document → Bool
  | .scalar value => value.isVoid
  | .array items => items.isEmpty
  | .object members => members.isEmpty
  | .set keys => keys.isEmpty
  | .pair _ _ | .knot _ _ | .back _ => false

/-- The members of an object or of a value that counts as nothing; another value has none to
give. -/
def membersOrVoid? (d : Document) : Option Members :=
  match d.untie with
  | .object members => some members
  | d => if d.isVoid then some [] else none

/-- What a walk over the value visits: the items of a collection, the keys of an object, the
characters of a text, the bytes of a byte string. -/
def elements? (d : Document) : Option (List Document) :=
  match d.untie with
  | .array items => some items
  | .pair first second => some [first, second]
  | .object members => some (members.map fun member => .scalar member.1)
  | .set keys => some (keys.map .scalar)
  | .scalar (.text s) => some (s.toList.map fun c => text (String.singleton c))
  | .scalar (.bytes bytes) => some (bytes.map fun (byte : Nat) => int byte)
  | _ => none

/-- Whether a text is a key of an object or a set, an item of an array or a part of a text. Other
values hold nothing. -/
def mentions? (d : Document) (name : String) : Option Bool :=
  match d.untie with
  | .object members => some (Members.has members name)
  | .set keys => some (keys.any fun key => key.same (.text name))
  | .array items => some (items.any fun item => item == text name)
  | .pair first second => some (first == text name || second == text name)
  | .scalar (.text s) => some (Text.contains s name)
  | _ => none

def typeName : Document → String
  | .scalar value => value.typeName
  | .array _ => "list"
  | .pair _ _ => "tuple"
  | .object _ | .back _ => "dict"
  | .set _ => "set"
  | .knot _ content => content.typeName

/-- What messages quote in the place of a collection within itself. -/
def ellipsis : Document → String
  | .array _ => "[...]"
  | .pair _ _ => "(...)"
  | _ => "\x7b...\x7d"

def quoteSet (keys : List Scalar) : String :=
  if keys.isEmpty then "set()"
  else "\x7b" ++ ", ".intercalate (keys.map Scalar.quoted) ++ "\x7d"

mutual

/-- A value as messages quote it inside of knots, each given by its mark and what is quoted for
it. -/
def quotedWithin (around : List (Nat × String)) : Document → String
  | .scalar value => value.quoted
  | .array items => "[" ++ ", ".intercalate (quotedItems around items) ++ "]"
  | .pair first second =>
    "(" ++ quotedWithin around first ++ ", " ++ quotedWithin around second ++ ")"
  | .object members => "\x7b" ++ ", ".intercalate (quotedMembers around members) ++ "\x7d"
  | .set keys => quoteSet keys
  | .knot mark content =>
    match around.lookup mark with
    | some shown => shown
    | none => quotedWithin ((mark, content.ellipsis) :: around) content
  | .back mark => (around.lookup mark).getD "..."

def quotedItems (around : List (Nat × String)) : List Document → List String
  | [] => []
  | item :: rest => quotedWithin around item :: quotedItems around rest

def quotedMembers (around : List (Nat × String)) : List (Scalar × Document) → List String
  | [] => []
  | (key, value) :: rest =>
    (key.quoted ++ ": " ++ quotedWithin around value) :: quotedMembers around rest

end

def quoted (d : Document) : String := quotedWithin [] d

def display : Document → String
  | .scalar value => value.display
  | d => d.quoted

end Document

end ClientGen
