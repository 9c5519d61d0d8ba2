import ClientGen.Proofs.Agreement
import ClientGen.Proofs.Document.Keys

/-!
Documents that are the same up to the order of members at every depth. Everything that is looked up
in two of them by name, by index or by a reference is again the same up to that order.
-/
namespace ClientGen

namespace Members

variable {α : Type} {members members' : List (Scalar × α)}

theorem Distinct.perm (h : Distinct members)
    (hkeys : (members.map (·.1)).Perm (members'.map (·.1))) : Distinct members' := by
  have hcanonical := hkeys.map Scalar.canonical
  rw [List.map_map, List.map_map] at hcanonical
  exact hcanonical.nodup_iff.mp h

theorem exists_of_keys_perm (keys : (members.map (·.1)).Perm (members'.map (·.1))) {key : Scalar}
    {value : α} (h : (key, value) ∈ members) : ∃ value', (key, value') ∈ members' := by
  have hkey : key ∈ members'.map (·.1) :=
    keys.mem_iff.mp (List.mem_map_of_mem (f := (·.1)) h)
  simpa using hkey

/-- With each key once, a lookup finds a value exactly if the value stands under the name. -/
theorem get?_eq_some_iff (once : Distinct members) {name : String} {value : α} :
    get? members name = some value ↔ (.text name, value) ∈ members := by
  induction members with
  | nil => simp [get?, find?]
  | cons member rest ih =>
    obtain ⟨key, first⟩ := member
    have hkeys := List.nodup_cons.mp once.keys_nodup
    have hrest : Distinct rest := (List.nodup_cons.mp once).2
    have ih := ih hrest
    simp only [get?, find?, List.find?_cons] at ih ⊢
    by_cases hkey : key = .text name
    · subst hkey
      have hother : (.text name, value) ∉ rest := fun hmem =>
        hkeys.1 (List.mem_map_of_mem (f := (·.1)) hmem)
      simp [Scalar.same_text, hother, eq_comm]
    · have hsame : key.same (.text name) = false := by
        rw [← Bool.not_eq_true, Scalar.same_text_iff]
        exact hkey
      simp only [hsame, ih, List.mem_cons, Prod.mk.injEq, Ne.symm hkey, false_and, false_or]

/-- Members with the same keys can be put in an order in which they match key by key. -/
theorem upToOrder_of_keys {P : α → α → Prop}
    (keys : (members.map (·.1)).Perm (members'.map (·.1)))
    (values : ∀ {key value value'}, (key, value) ∈ members → (key, value') ∈ members' →
      P value value') :
    UpToOrder (fun member member' => member.1 = member'.1 ∧ P member.2 member'.2)
      members members' := by
  have hkeyed : List.Forall₂ (fun key (member : Scalar × α) => key = member.1)
      (members.map (·.1)) members := by
    rw [List.forall₂_map_left_iff]
    exact List.forall₂_same.mpr fun _ _ => rfl
  obtain ⟨ordered, hordered, hperm⟩ := List.perm_comp_forall₂ keys.symm hkeyed
  rw [List.forall₂_map_left_iff] at hordered
  obtain ⟨hlength, hkeys⟩ := List.forall₂_iff_zip.mp hordered.flip
  refine ⟨ordered, hperm.symm, List.forall₂_iff_zip.mpr ⟨hlength, ?_⟩⟩
  rintro ⟨key, value⟩ ⟨key', value'⟩ hzip
  obtain rfl : key' = key := hkeys hzip
  obtain ⟨hmem, hmem'⟩ := List.of_mem_zip hzip
  exact ⟨rfl, values (hperm.mem_iff.mp hmem) hmem'⟩

/-- Lookups by name in members that match key by key. -/
theorem rel_get? {P : α → α → Prop} (once : Distinct members)
    (keys : (members.map (·.1)).Perm (members'.map (·.1)))
    (values : ∀ {key value value'}, (key, value) ∈ members → (key, value') ∈ members' →
      P value value') (name : String) :
    Option.Rel P (get? members name) (get? members' name) := by
  have once' := once.perm keys
  cases hfound : get? members name with
  | some value =>
    have hmem := (get?_eq_some_iff once).mp hfound
    obtain ⟨value', hmem'⟩ := exists_of_keys_perm keys hmem
    rw [(get?_eq_some_iff once').mpr hmem']
    exact .some (values hmem hmem')
  | none =>
    cases hfound' : get? members' name with
    | none => exact .none
    | some value' =>
      have hmem' := (get?_eq_some_iff once').mp hfound'
      obtain ⟨value, hmem⟩ := exists_of_keys_perm keys.symm hmem'
      rw [(get?_eq_some_iff once).mpr hmem] at hfound
      cases hfound

end Members

namespace Reference

theorem pendingItems_eq (items : List Document) : pendingItems items = items.flatMap pending := by
  induction items with
  | nil => rfl
  | cons item rest ih => simp [pendingItems, ih]

theorem pendingMembers_eq (members : Members) :
    pendingMembers members = members.flatMap fun member => pending member.2 := by
  induction members with
  | nil => rfl
  | cons member rest ih => simp [pendingMembers, ih]

end Reference

namespace Document

/-- The same up to the order of members at every depth. The items of arrays keep their places, and
every object has each key once. -/
inductive Reordered : Document → Document → Prop
  | scalar (value : Scalar) : Reordered (.scalar value) (.scalar value)
  | array {items items' : List Document} (length_eq : items.length = items'.length)
      (items_eq : ∀ {item item'}, (item, item') ∈ items.zip items' → Reordered item item') :
      Reordered (.array items) (.array items')
  | object {members members' : Members} (once : Members.Distinct members)
      (keys : (members.map (·.1)).Perm (members'.map (·.1)))
      (values : ∀ {key value value'}, (key, value) ∈ members → (key, value') ∈ members' →
        Reordered value value') :
      Reordered (.object members) (.object members')

/-- Members with the same key and values that are the same up to order. -/
def ReorderedMember (member member' : Scalar × Document) : Prop :=
  member.1 = member'.1 ∧ Reordered member.2 member'.2

namespace Reordered

variable {d d' : Document}

theorem of_upToOrder {members members' : Members} (once : Members.Distinct members)
    (h : UpToOrder ReorderedMember members members') :
    Reordered (.object members) (.object members') := by
  have keys := h.map_perm fun _ _ hmember => hmember.1
  refine .object once keys fun {key value value'} hmem hmem' => ?_
  obtain ⟨ordered, hperm, hall⟩ := h
  obtain ⟨other, hother, hkey, hrelated⟩ := Outcome.exists_left_of_mem hall hmem'
  have hsame : other = (key, value) :=
    List.inj_on_of_nodup_map once.keys_nodup (hperm.mem_iff.mpr hother) hmem hkey
  subst hsame
  exact hrelated

mutual

/-- Documents that JSON can write are the same as themselves. -/
theorem refl : ∀ {document : Document}, IsJson document → Reordered document document
  | .scalar value, _ => .scalar value
  | .array _, h => by
    obtain ⟨hlength, hitems⟩ := List.forall₂_iff_zip.mp (refl_items (isJson_array_iff.mp h))
    exact .array hlength hitems
  | .object _, h => by
    obtain ⟨once, hvalues⟩ := isJson_object_iff.mp h
    exact of_upToOrder once (.of_forall₂ (refl_members hvalues))

theorem refl_items : ∀ {items : List Document}, (∀ item ∈ items, IsJson item) →
    List.Forall₂ Reordered items items
  | [], _ => .nil
  | item :: rest, h => by
    rw [List.forall_mem_cons] at h
    exact .cons (refl h.1) (refl_items h.2)

theorem refl_members : ∀ {members : List (Scalar × Document)},
    (∀ member ∈ members, IsJson member.2) → List.Forall₂ ReorderedMember members members
  | [], _ => .nil
  | (_, value) :: rest, h => by
    rw [List.forall_mem_cons] at h
    exact .cons ⟨rfl, refl h.1⟩ (refl_members h.2)

end

theorem upToOrder_members {members members' : Members}
    (h : Reordered (.object members) (.object members')) :
    UpToOrder ReorderedMember members members' := by
  cases h with
  | object once keys values => exact Members.upToOrder_of_keys keys values

theorem rel_get? (h : Reordered d d') (name : String) :
    Option.Rel Reordered (d.get? name) (d'.get? name) := by
  cases h with
  | scalar value => exact .none
  | array _ _ => exact .none
  | object once keys values => exact Members.rel_get? once keys values name

theorem get (h : Reordered d d') (name : String) : Reordered (d.get name) (d'.get name) := by
  have hfound := h.rel_get? name
  unfold Document.get
  generalize d.get? name = x at *
  generalize d'.get? name = y at *
  cases hfound with
  | none => exact .scalar .null
  | some hvalue => exact hvalue

theorem isSome_get? (h : Reordered d d') (name : String) :
    (d.get? name).isSome = (d'.get? name).isSome :=
  isSome_eq_of_rel (h.rel_get? name)

theorem isObject (h : Reordered d d') : d.isObject = d'.isObject := by
  cases h <;> rfl

theorem isNull (h : Reordered d d') : d.isNull = d'.isNull := by
  cases h <;> rfl

theorem text? (h : Reordered d d') : d.text? = d'.text? := by
  cases h <;> rfl

theorem eq_scalar_iff (h : Reordered d d') (value : Scalar) :
    d = .scalar value ↔ d' = .scalar value := by
  cases h <;> simp

theorem beq_scalar (h : Reordered d d') (value : Scalar) :
    (d == .scalar value) = (d' == .scalar value) := by
  rw [Bool.eq_iff_iff, beq_iff_eq, beq_iff_eq]
  exact h.eq_scalar_iff value

theorem isVoid (h : Reordered d d') : d.isVoid = d'.isVoid := by
  cases h with
  | scalar value => rfl
  | array hlength _ =>
    rw [Bool.eq_iff_iff]
    simp [Document.isVoid, ← List.length_eq_zero_iff, hlength]
  | object _ keys _ =>
    have hlength := keys.length_eq
    simp only [List.length_map] at hlength
    rw [Bool.eq_iff_iff]
    simp [Document.isVoid, ← List.length_eq_zero_iff, hlength]

theorem mentions? (h : Reordered d d') (name : String) : d.mentions? name = d'.mentions? name := by
  cases h with
  | scalar value => rfl
  | array hlength hitems =>
    have hall := List.forall₂_iff_zip.mpr ⟨hlength, hitems⟩
    simp only [Document.mentions?, Document.untie_array, Option.some.injEq]
    clear hlength hitems
    induction hall with
    | nil => rfl
    | cons head _ ih => rw [List.any_cons, List.any_cons, head.beq_scalar, ih]
  | object once keys values =>
    simp only [Document.mentions?, Document.untie_object, Members.has,
      isSome_eq_of_rel (Members.rel_get? once keys values name)]

theorem rel_membersOrVoid? (h : Reordered d d') :
    Option.Rel (fun members members' => Reordered (.object members) (.object members'))
      d.membersOrVoid? d'.membersOrVoid? := by
  have hnone : Reordered (.object []) (.object []) := .object List.nodup_nil (.refl _) (by simp)
  have hvoid := h.isVoid
  cases h with
  | scalar value =>
    cases hvalue : value.isVoid <;>
      simp only [membersOrVoid?, untie_scalar, Document.isVoid, hvalue]
    · exact .none
    · exact .some hnone
  | array hlength hitems =>
    simp only [membersOrVoid?, untie_array, hvoid]
    split
    · exact .some hnone
    · exact .none
  | object once keys values => exact .some (.object once keys values)

theorem isJson (h : Reordered d d') : IsJson d := by
  induction h with
  | scalar value => exact isJson_scalar value
  | array hlength _ ih =>
    have hall := (List.forall₂_iff_zip (R := fun item _ => IsJson item ∧ True)).mpr
      ⟨hlength, fun hmem => ⟨ih hmem, trivial⟩⟩
    exact isJson_array_iff.mpr ((List.forall₂_and_left _ _).mp hall).1
  | object once keys _ ih =>
    refine isJson_object_iff.mpr ⟨once, ?_⟩
    rintro ⟨key, value⟩ hmem
    obtain ⟨value', hmem'⟩ := Members.exists_of_keys_perm keys hmem
    exact ih hmem hmem'

theorem next? (h : Reordered d d') : Reference.next? d = Reference.next? d' := by
  have hfound := h.rel_get? "$ref"
  unfold Reference.next?
  generalize d.get? "$ref" = x at *
  generalize d'.get? "$ref" = y at *
  cases hfound with
  | none => rfl
  | some hvalue => cases hvalue <;> rfl

theorem length_pending (h : Reordered d d') :
    (Reference.pending d).length = (Reference.pending d').length := by
  induction h with
  | scalar value => rfl
  | array hlength hitems ih =>
    simp only [Reference.pending, Reference.pendingItems_eq, List.length_flatMap]
    congr 1
    rw [← List.forall₂_eq_eq_eq, List.forall₂_map_left_iff, List.forall₂_map_right_iff]
    exact List.forall₂_iff_zip.mpr ⟨hlength, ih⟩
  | object once keys values ih =>
    -- the references stand in another order, but their number is all that bounds the search
    have hnext := (Reordered.object once keys values).next?
    have hmembers := (Members.upToOrder_of_keys keys ih).map_perm
      (f := fun member => (Reference.pending member.2).length)
      (g := fun member => (Reference.pending member.2).length) fun _ _ hmember => hmember.2
    simp only [Reference.pending, List.length_append, hnext, Reference.pendingMembers_eq,
      List.length_flatMap, hmembers.sum_nat]

theorem itemAt? {items items' : List Document} (h : List.Forall₂ Reordered items items')
    (index : Int) :
    Option.Rel Reordered (Pointer.itemAt? items index) (Pointer.itemAt? items' index) := by
  have hat : ∀ n : Nat, Option.Rel Reordered items[n]? items'[n]? := by
    intro n
    induction h generalizing n with
    | nil => exact .none
    | cons head _ ih =>
      cases n with
      | zero => exact .some head
      | succ n => simpa using ih n
  unfold Pointer.itemAt?
  rw [h.length_eq]
  split
  · exact hat _
  · split
    · exact hat _
    · exact .none

theorem agree_step (h : Reordered d d') (reference token : String) :
    Agree Reordered (Pointer.step reference token d) (Pointer.step reference token d') := by
  cases h with
  | scalar value => exact .error _ _
  | array hlength hitems =>
    have hall := List.forall₂_iff_zip.mpr ⟨hlength, hitems⟩
    simp only [Pointer.step, untie_array]
    cases Text.integer? token with
    | none => exact .error _ _
    | some index =>
      have hitem := itemAt? hall index
      simp only [Option.bind_eq_bind, Option.bind_some]
      generalize Pointer.itemAt? _ index = x at *
      generalize Pointer.itemAt? _ index = y at *
      cases hitem with
      | none => exact .error _ _
      | some hvalue => exact .ok hvalue
  | object once keys values =>
    have hfound := Members.rel_get? once keys values token
    simp only [Pointer.step, untie_object]
    generalize Members.get? _ token = x at *
    generalize Members.get? _ token = y at *
    cases hfound with
    | none => exact .error _ _
    | some hvalue => exact .ok hvalue

theorem agree_pointer (h : Reordered d d') (reference : String) :
    Agree Reordered (Pointer.resolve reference d) (Pointer.resolve reference d') := by
  unfold Pointer.resolve
  cases Pointer.tokens? reference with
  | none => exact .error _ _
  | some tokens => exact Agree.foldlM (fun _ _ token h => h.agree_step reference token) tokens h

theorem agree_follow (hd : Reordered d d') (fuel : Nat) (seen : List String)
    {value value' : Document} (h : Reordered value value') :
    Agree Reordered (Reference.follow d fuel seen value)
      (Reference.follow d' fuel seen value') := by
  unfold Reference.follow
  rw [← h.next?]
  cases Reference.next? value with
  | none => exact .ok h
  | some reference =>
    dsimp only
    split
    · exact .error _ _
    · have htarget := hd.agree_pointer reference
      generalize Pointer.resolve reference d = x at *
      generalize Pointer.resolve reference d' = y at *
      cases htarget with
      | error _ _ => exact .error _ _
      | ok htarget =>
        cases fuel with
        | zero => exact .error _ _
        | succ fuel => exact agree_follow hd fuel _ htarget

/-- References lead to values that are the same up to order, or nowhere in both documents. -/
theorem agree_resolve (hd : Reordered d d') {value value' : Document}
    (h : Reordered value value') :
    Agree Reordered (Reference.resolve d value) (Reference.resolve d' value') := by
  unfold Reference.resolve
  rw [← h.next?, ← hd.length_pending]
  split
  · exact .ok h
  · exact hd.agree_follow _ _ h

end Reordered

end Document

end ClientGen
