import ClientGen.Operation.Extract
import ClientGen.Proofs.Outcome
import Mathlib.Data.List.Nodup

/-!
Documents in which every object has each key once, as all documents that are read have. What stands
somewhere in such a document is of the same kind. Those without pairs, sets and knots are what JSON
can write.
-/
namespace ClientGen

theorem Scalar.same_text_iff {key : Scalar} {name : String} :
    key.same (.text name) = true ↔ key = .text name := by
  cases key with
  | real value => cases h : value.toInt? <;> simp [Scalar.same, Scalar.canonical, h]
  | moment value => cases value.offset <;> simp [Scalar.same, Scalar.canonical]
  | _ => simp [Scalar.same, Scalar.canonical]

/-- Members with each key once. Equal numbers are one key. -/
def Members.Distinct {α : Type} (members : List (Scalar × α)) : Prop :=
  (members.map (·.1.canonical)).Nodup

instance {α : Type} (members : List (Scalar × α)) : Decidable (Members.Distinct members) :=
  inferInstanceAs (Decidable (List.Nodup _))

theorem Members.Distinct.keys_nodup {α : Type} {members : List (Scalar × α)}
    (h : Members.Distinct members) : (members.map (·.1)).Nodup := by
  apply List.Nodup.of_map Scalar.canonical
  rw [List.map_map]
  exact h

theorem Members.get?_eq_none {α : Type} {members : List (Scalar × α)} {name : String}
    (h : ∀ member ∈ members, member.1 ≠ .text name) : get? members name = none := by
  rw [get?, find?, Option.map_eq_none_iff, List.find?_eq_none]
  intro member hmember
  rw [Scalar.same_text_iff]
  exact h member hmember

/-- A member with a new name is put after the others. -/
theorem Members.put_of_fresh {α : Type} {members : List (Scalar × α)} {name : String}
    (fresh : .text name ∉ members.map (·.1)) (value : α) :
    put members name value = members ++ [(.text name, value)] := by
  unfold put
  induction members with
  | nil => rfl
  | cons member rest ih =>
    rw [List.map_cons, List.mem_cons, not_or] at fresh
    have hother : member.1.same (.text name) = false := by
      rw [← Bool.not_eq_true, Scalar.same_text_iff]
      exact Ne.symm fresh.1
    rw [putKey, hother, if_neg (by decide), ih fresh.2, List.cons_append]

namespace Document

theorem get?_of_not_isObject {document : Document} (h : document.isObject = false)
    (name : String) : document.get? name = none := by
  unfold isObject at h
  unfold get?
  split at h <;> simp_all

mutual

/-- Whether each object of a document has each of its keys once. -/
def keysOnce : Document → Bool
  | .array items => keysOnceItems items
  | .pair first second => keysOnce first && keysOnce second
  | .object members => decide (Members.Distinct members) && keysOnceMembers members
  | .knot _ content => keysOnce content
  | .scalar _ | .set _ | .back _ => true

/-- Whether each object of several documents has each of its keys once. -/
def keysOnceItems : List Document → Bool
  | [] => true
  | item :: rest => keysOnce item && keysOnceItems rest

/-- Whether each object of the values of members has each of its keys once. -/
def keysOnceMembers : List (Scalar × Document) → Bool
  | [] => true
  | (_, value) :: rest => keysOnce value && keysOnceMembers rest

end

theorem refillMembers_keys (mark : Nat) (whole : Document) (members : Members) :
    (refillMembers mark whole members).map (·.1.canonical) =
      members.map (·.1.canonical) := by
  induction members with
  | nil => rfl
  | cons member rest ih => simp [refillMembers, ih]

theorem get?_refillMembers (mark : Nat) (whole : Document) (members : Members) (name : String) :
    Members.get? (refillMembers mark whole members) name =
      (Members.get? members name).map (refill mark whole) := by
  induction members with
  | nil => rfl
  | cons member rest ih =>
    obtain ⟨key, value⟩ := member
    simp only [Members.get?, Members.find?] at ih
    cases hkey : key.same (.text name) <;>
      simp [refillMembers, Members.get?, Members.find?, hkey, ih]

mutual

theorem keysOnce_refill (mark : Nat) {whole : Document} (hwhole : whole.keysOnce) :
    ∀ {document : Document}, document.keysOnce → (refill mark whole document).keysOnce
  | .scalar _, _ => by simp [refill, keysOnce]
  | .array items, h => by
    simp only [refill, keysOnce] at h ⊢
    exact keysOnce_refillItems mark hwhole h
  | .pair first second, h => by
    simp only [refill, keysOnce, Bool.and_eq_true] at h ⊢
    exact ⟨keysOnce_refill mark hwhole h.1, keysOnce_refill mark hwhole h.2⟩
  | .object members, h => by
    simp only [refill, keysOnce, Bool.and_eq_true, decide_eq_true_eq] at h ⊢
    refine ⟨?_, keysOnce_refillMembers mark hwhole h.2⟩
    rw [Members.Distinct, refillMembers_keys]
    exact h.1
  | .set _, _ => by simp [refill, keysOnce]
  | .knot inner content, h => by
    simp only [refill]
    split
    · exact h
    · simp only [keysOnce] at h ⊢
      exact keysOnce_refill mark hwhole h
  | .back other, _ => by
    simp only [refill]
    split
    · exact hwhole
    · simp [keysOnce]

theorem keysOnce_refillItems (mark : Nat) {whole : Document} (hwhole : whole.keysOnce) :
    ∀ {items : List Document}, keysOnceItems items → keysOnceItems (refillItems mark whole items)
  | [], _ => rfl
  | item :: rest, h => by
    simp only [refillItems, keysOnceItems, Bool.and_eq_true] at h ⊢
    exact ⟨keysOnce_refill mark hwhole h.1, keysOnce_refillItems mark hwhole h.2⟩

theorem keysOnce_refillMembers (mark : Nat) {whole : Document} (hwhole : whole.keysOnce) :
    ∀ {members : List (Scalar × Document)}, keysOnceMembers members →
      keysOnceMembers (refillMembers mark whole members)
  | [], _ => rfl
  | (_, value) :: rest, h => by
    simp only [refillMembers, keysOnceMembers, Bool.and_eq_true] at h ⊢
    exact ⟨keysOnce_refill mark hwhole h.1, keysOnce_refillMembers mark hwhole h.2⟩

end

theorem keysOnce_untie {document : Document} (h : document.keysOnce) :
    document.untie.keysOnce := by
  cases document with
  | knot mark content => exact keysOnce_refill mark h (by simpa [keysOnce] using h)
  | _ => exact h

theorem keysOnceItems_iff {items : List Document} :
    keysOnceItems items = true ↔ ∀ item ∈ items, item.keysOnce = true := by
  induction items with
  | nil => simp [keysOnceItems]
  | cons item rest ih => simp [keysOnceItems, ih]

theorem keysOnceMembers_iff {members : Members} :
    keysOnceMembers members = true ↔ ∀ member ∈ members, member.2.keysOnce = true := by
  induction members with
  | nil => simp [keysOnceMembers]
  | cons member rest ih => simp [keysOnceMembers, ih]

theorem keysOnce_get {document : Document} (h : document.keysOnce) (name : String) :
    (document.get name).keysOnce := by
  have huntied := keysOnce_untie h
  unfold get get?
  split
  next members hmembers =>
    rw [hmembers, keysOnce, Bool.and_eq_true] at huntied
    cases hfound : Members.get? members name with
    | none => rfl
    | some value =>
      obtain ⟨member, hmember, rfl⟩ : ∃ member ∈ members, member.2 = value := by
        rw [Members.get?, Members.find?, Option.map_eq_some_iff] at hfound
        obtain ⟨member, hmember, hvalue⟩ := hfound
        exact ⟨member, List.mem_of_find?_eq_some hmember, hvalue⟩
      exact keysOnceMembers_iff.mp huntied.2 member hmember
  · rfl

theorem distinct_of_membersOrVoid? {document : Document} (h : document.keysOnce)
    {members : Members} (hmembers : document.membersOrVoid? = some members) :
    Members.Distinct members := by
  have huntied := keysOnce_untie h
  unfold membersOrVoid? at hmembers
  split at hmembers
  next inner hinner =>
    rw [hinner, keysOnce, Bool.and_eq_true, decide_eq_true_eq] at huntied
    cases hmembers
    exact huntied.1
  · split at hmembers
    · cases hmembers
      exact List.nodup_nil
    · cases hmembers

mutual

/-- Whether a document is made of scalars, arrays and objects alone, as JSON writes them. -/
def plain : Document → Bool
  | .scalar _ => true
  | .array items => plainItems items
  | .object members => plainMembers members
  | .pair _ _ | .set _ | .knot _ _ | .back _ => false

def plainItems : List Document → Bool
  | [] => true
  | item :: rest => plain item && plainItems rest

def plainMembers : List (Scalar × Document) → Bool
  | [] => true
  | (_, value) :: rest => plain value && plainMembers rest

end

theorem plainItems_iff {items : List Document} :
    plainItems items = true ↔ ∀ item ∈ items, item.plain = true := by
  induction items with
  | nil => simp [plainItems]
  | cons item rest ih => simp [plainItems, ih]

theorem plainMembers_iff {members : Members} :
    plainMembers members = true ↔ ∀ member ∈ members, member.2.plain = true := by
  induction members with
  | nil => simp [plainMembers]
  | cons member rest ih => simp [plainMembers, ih]

/-- What JSON can write: scalars, arrays and objects with each key once. -/
def IsJson (document : Document) : Prop := document.plain = true ∧ document.keysOnce = true

theorem isJson_scalar (value : Scalar) : IsJson (.scalar value) := ⟨rfl, rfl⟩

theorem isJson_array_iff {items : List Document} :
    IsJson (.array items) ↔ ∀ item ∈ items, IsJson item := by
  simp only [IsJson, plain, keysOnce, plainItems_iff, keysOnceItems_iff]
  exact ⟨fun h item hitem => ⟨h.1 item hitem, h.2 item hitem⟩,
    fun h => ⟨fun item hitem => (h item hitem).1, fun item hitem => (h item hitem).2⟩⟩

theorem isJson_object_iff {members : Members} :
    IsJson (.object members) ↔
      Members.Distinct members ∧ ∀ member ∈ members, IsJson member.2 := by
  simp only [IsJson, plain, keysOnce, plainMembers_iff, Bool.and_eq_true, decide_eq_true_eq,
    keysOnceMembers_iff]
  exact ⟨fun h => ⟨h.2.1, fun member hmem => ⟨h.1 member hmem, h.2.2 member hmem⟩⟩,
    fun h => ⟨fun member hmem => (h.2 member hmem).1, h.1,
      fun member hmem => (h.2 member hmem).2⟩⟩

end Document

end ClientGen
