import ClientGen.Client.Imports
import ClientGen.Proofs.Document.Composition
import ClientGen.Proofs.Document.Frame
import Mathlib.Logic.Relation

/-!
Members that are null where they could be absent: the paths and the information of a document, and
the parameters of its operations. Preparation writes into them, and fails on each null that it finds
there; a null in a path that is left out is never found.
-/
namespace ClientGen

variable {name other : String} {before after : Members}

/-- Members of which one that was absent is null afterwards. -/
inductive Members.Nulled (name : String) : Members → Members → Prop
  | join {front back : Members} (absent : get? (front ++ back) name = none) :
      Nulled name (front ++ back) (front ++ (.text name, .null) :: back)

namespace Members

theorem get?_append {α : Type} (front back : List (Scalar × α)) (name : String) :
    get? (front ++ back) name = (get? front name).or (get? back name) := by
  simp only [get?, find?, List.find?_append]
  cases List.find? (fun member => member.1.same (.text name)) front <;> rfl

theorem get?_cons_of_ne {α : Type} (value : α) (rest : List (Scalar × α)) (h : name ≠ other) :
    get? ((.text name, value) :: rest) other = get? rest other := by
  have hother : Scalar.same (.text name) (.text other) = false := by
    simpa [Scalar.same_text] using h
  simp only [get?, find?, List.find?_cons, hother]

theorem get?_cons_same {α : Type} (value : α) (rest : List (Scalar × α)) (name : String) :
    get? ((.text name, value) :: rest) name = some value := by
  simp [get?, find?, Scalar.same_text]

namespace Nulled

theorem absent (h : Nulled name before after) : get? before name = none := by
  cases h with
  | join absent => exact absent

theorem get?_same (h : Nulled name before after) : get? after name = some .null := by
  cases h with
  | join absent =>
    rw [get?_append, Option.or_eq_none_iff] at absent
    rw [get?_append, absent.1, Option.none_or, get?_cons_same]

theorem get?_of_ne (h : Nulled name before after) (hne : name ≠ other) :
    get? after other = get? before other := by
  cases h with
  | join => rw [get?_append, get?_append, get?_cons_of_ne _ _ hne]

theorem get?_of_some {value : Document} (h : Nulled name before after)
    (hvalue : get? before other = some value) : get? after other = some value := by
  have hne : name ≠ other := by
    rintro rfl
    cases h.absent.symm.trans hvalue
  rw [h.get?_of_ne hne, hvalue]

/-- Who reads members by name takes a null for an absent one. -/
theorem get_object (h : Nulled name before after) (other : String) :
    (Document.object after).get other = (Document.object before).get other := by
  rw [Document.get_object, Document.get_object]
  by_cases hne : name = other
  · subst hne
    rw [h.get?_same, h.absent]
    rfl
  · rw [h.get?_of_ne hne]

end Nulled

end Members

namespace Update

open Outcome

variable {features : List String} {document document' updated : Document}

/-- One more null for an absent member: the paths or the information of a document, or the
parameters of one of its operations. -/
inductive Nulled (document : Document) : Document → Prop
  | member {name : String} {members members' : Members}
      (place : name = "paths" ∨ name = "info") (opened : document.untie = .object members)
      (null : Members.Nulled name members members') : Nulled document (.object members')
  | parameters {members : Members} {paths : Document} {front back : Members} {key : Scalar}
      {item : Document} {operations : Members} {method : String} {operation operation' : Members}
      (opened : document.untie = .object members)
      (found : Members.get? members "paths" = some paths)
      (listed : paths.untie = .object (front ++ (key, item) :: back))
      (itemOpened : item.untie = .object operations) (known : method ∈ methods)
      (operationFound : operation? operations method = some operation)
      (null : Members.Nulled "parameters" operation operation') :
      Nulled document (.object (Members.put members "paths" (.object (front ++
        (key, .object (Members.put operations method (.object operation'))) :: back))))

/-- A null that preparation finds: the paths or the information, or the parameters of an operation
on a path that stays. -/
inductive FindsNull (features : List String) (document : Document) : Prop
  | member {name : String} {members : Members} (place : name = "paths" ∨ name = "info")
      (opened : document.untie = .object members)
      (null : Members.get? members name = some .null)
  | parameters {members : Members} {paths : Document} {items : Members}
      {path : Scalar × Document} {operations : Members} {method : String} {operation : Members}
      (opened : document.untie = .object members)
      (found : Members.get? members "paths" = some paths) (listed : paths.untie = .object items)
      (within : path ∈ items) (kept : stays features path = true)
      (itemOpened : path.2.untie = .object operations) (known : method ∈ methods)
      (operationFound : operation? operations method = some operation)
      (null : Members.get? operation "parameters" = some .null)

theorem parameters_ne_null {path path' : Scalar × Document} {operations operation : Members}
    {method : String} (h : updatePath path = .ok path')
    (hitem : path.2.untie = .object operations) (hmethod : method ∈ methods)
    (hoperation : operation? operations method = some operation) :
    Members.get? operation "parameters" ≠ some .null := by
  intro hnull
  obtain ⟨_, _, -, -, hframe⟩ := (pathFrame_of_update h).item
  obtain ⟨_, -, -, hoperations⟩ := hframe.object _ hitem
  obtain ⟨_, -, hprepared⟩ := hoperations method hmethod operation hoperation
  obtain ⟨old, hold, -⟩ := hprepared.parameters
  rw [hnull] at hold
  cases hold

theorem FindsNull.not_update (h : FindsNull features document) :
    update features document ≠ .ok updated := by
  intro hupdate
  obtain ⟨members, paths, kept, prepared, info, hmembers, hpaths, hkept, hprepared, hinfo, -⟩ :=
    update_eq_ok.mp hupdate
  cases h with
  | member place opened null =>
    cases opened.symm.trans hmembers
    rcases place with rfl | rfl
    · rw [null] at hpaths
      cases hpaths
    · rw [Members.get?_put_of_ne _ _ (by decide), null] at hinfo
      cases hinfo
  | @parameters _ _ items path _ _ _ opened found listed within stays itemOpened known
      operationFound null =>
    cases opened.symm.trans hmembers
    rw [found, Option.getD_some] at hpaths
    cases listed.symm.trans hpaths
    obtain ⟨rfl, -⟩ := prune_eq_ok.mp hkept
    obtain ⟨path', -, hpath⟩ := exists_mem_of_mapM hprepared (List.mem_filter.mpr ⟨within, stays⟩)
    exact parameters_ne_null hpath itemOpened known operationFound null

theorem operation?_put_of_ne {item : Members} {name other : String} (value : Document)
    (h : name ≠ other) : operation? (Members.put item name value) other = operation? item other :=
  operation?_congr (Members.get?_put_of_ne _ _ h)

/-- A null that is found stays where it is when another one is added. -/
theorem FindsNull.of_nulled (h : FindsNull features document) (hnull : Nulled document document') :
    FindsNull features document' := by
  cases hnull with
  | member place opened null =>
    cases h with
    | member place' opened' null' =>
      cases opened.symm.trans opened'
      exact .member place' rfl (null.get?_of_some null')
    | parameters opened' found' listed' within' kept' itemOpened' known' operationFound' null' =>
      cases opened.symm.trans opened'
      exact .parameters rfl (null.get?_of_some found') listed' within' kept' itemOpened' known'
        operationFound' null'
  | @parameters members paths front back key item operations method operation operation' opened
      found listed itemOpened known operationFound null =>
    cases h with
    | member place' opened' null' =>
      cases opened.symm.trans opened'
      rcases place' with rfl | rfl
      · cases found.symm.trans null'
        cases listed
      · refine .member (.inr rfl) rfl ?_
        rw [Members.get?_put_of_ne _ _ (by decide), null']
    | @parameters _ _ _ path _ method' _ opened' found' listed' within' kept' itemOpened' known'
        operationFound' null' =>
      cases opened.symm.trans opened'
      cases found.symm.trans found'
      cases listed.symm.trans listed'
      have hpaths := Members.get?_put_same members "paths" (.object (front ++
        (key, .object (Members.put operations method (.object operation'))) :: back))
      rw [List.mem_append, List.mem_cons] at within'
      rcases within' with hfront | rfl | hback
      · exact .parameters rfl hpaths rfl (List.mem_append_left _ hfront) kept' itemOpened' known'
          operationFound' null'
      · -- the operation without parameters is not the one whose parameters are null
        cases itemOpened.symm.trans itemOpened'
        have hmethod : method ≠ method' := by
          rintro rfl
          cases operationFound.symm.trans operationFound'
          cases null.absent.symm.trans null'
        refine .parameters rfl hpaths rfl (List.mem_append_right _ List.mem_cons_self) kept' rfl
          known' ?_ null'
        rw [operation?_put_of_ne _ hmethod, operationFound']
      · exact .parameters rfl hpaths rfl
          (List.mem_append_right _ (List.mem_cons_of_mem _ hback)) kept' itemOpened' known'
          operationFound' null'

/-- Of a path that is left out only the key is looked at. -/
theorem prune_of_not_stays {front back : Members} {key : Scalar} (item item' : Document)
    (h : stays features (key, item) = false) :
    prune features (front ++ (key, item') :: back) =
      prune features (front ++ (key, item) :: back) := by
  have hsome : (disabled features).isEmpty = false := by
    cases key with
    | text name =>
      obtain ⟨kind, hkind, -⟩ := isPruned_iff.mp (by simpa [stays_text] using h)
      exact List.isEmpty_eq_false_iff.mpr (List.ne_nil_of_mem hkind)
    | _ => cases h
  have hnames : (front ++ (key, item') :: back).all
      (fun path => (Document.scalar path.1).text?.isSome) =
        (front ++ (key, item) :: back).all fun path => (Document.scalar path.1).text?.isSome := by
    simp
  have hkept : (front ++ (key, item') :: back).filter (stays features) =
      (front ++ (key, item) :: back).filter (stays features) := by
    have h' : stays features (key, item') = false := h
    simp [List.filter_append, h, h']
  unfold prune
  simp only [hsome, hnames, Bool.false_eq_true, if_false]
  split
  · exact congrArg Except.ok hkept
  · rfl

/-- One more null that is not found changes nothing. -/
theorem update_of_nulled (hnull : Nulled document document')
    (h : ¬FindsNull features document') : update features document' = update features document := by
  cases hnull with
  | member place opened null => exact absurd (.member place rfl null.get?_same) h
  | @parameters members paths front back key item operations method operation operation' opened
      found listed itemOpened known operationFound null =>
    generalize hitem' : Document.object (Members.put operations method (.object operation')) = item'
      at h ⊢
    have hpaths := Members.get?_put_same members "paths" (.object (front ++ (key, item') :: back))
    have hother : stays features (key, item) = false := by
      by_contra hstays
      have hkept : stays features (key, item) = true := by simpa using hstays
      have hmem : (key, item') ∈ front ++ (key, item') :: back := by simp
      have hoperation : operation? (Members.put operations method (.object operation')) method =
          some operation' := operation?_of_untie (Members.get?_put_same _ _ _) rfl
      have hopened :
          item'.untie = .object (Members.put operations method (.object operation')) := by
        rw [← hitem', Document.untie_object]
      exact h (.parameters rfl hpaths rfl hmem hkept hopened known hoperation null.get?_same)
    simp only [update, Document.untie_object, opened, hpaths, found, Option.getD_some, listed,
      prune_of_not_stays item item' hother, Members.put_put_same]

theorem update_of_nulls (hnulls : Relation.ReflTransGen Nulled document document')
    (h : ¬FindsNull features document') : update features document' = update features document := by
  induction hnulls with
  | refl => rfl
  | tail _ hnull ih =>
    rw [update_of_nulled hnull h, ih fun hfinds => h (hfinds.of_nulled hnull)]

theorem get_of_untie {members : Members} (opened : document.untie = .object members)
    (name : String) : document.get name = (Document.object members).get name := by
  simp only [Document.get, Document.get?, opened, Document.untie_object]

theorem documentVersion_of_nulled (hnull : Nulled document document') :
    Client.documentVersion document' = Client.documentVersion document := by
  obtain ⟨members, members', opened, rfl, hinfo⟩ : ∃ members members',
      document.untie = .object members ∧ document' = .object members' ∧
        (Document.object members').get "info" = (Document.object members).get "info" := by
    cases hnull with
    | member _ opened null => exact ⟨_, _, opened, rfl, null.get_object "info"⟩
    | parameters opened =>
      refine ⟨_, _, opened, rfl, ?_⟩
      rw [Document.get_object, Document.get_object, Members.get?_put_of_ne _ _ (by decide)]
  have hobject : document.isObject = true := Document.isObject_iff.mpr ⟨members, opened⟩
  have hobject' : (Document.object members').isObject = true := rfl
  simp only [Client.documentVersion, hobject, hobject', hinfo, get_of_untie opened]

/-- Nulls in the place of absent members: preparation has the result that it had without them
unless it finds one, when it has none. The version is the same in any case. -/
theorem update_with_nulls (hnulls : Relation.ReflTransGen Nulled document document')
    (features : List String) :
    (∀ updated, update features document' = .ok updated ↔
      update features document = .ok updated ∧ ¬FindsNull features document') ∧
    (∀ updated updated', update features document = .ok updated →
      update features document' = .ok updated' → ∀ idCollection,
        Operation.collect updated' idCollection = Operation.collect updated idCollection) ∧
    Client.documentVersion document' = Client.documentVersion document := by
  have hresult (updated : Document) : update features document' = .ok updated ↔
      update features document = .ok updated ∧ ¬FindsNull features document' := by
    constructor
    · intro h
      have hfinds : ¬FindsNull features document' := fun hfinds => hfinds.not_update h
      exact ⟨update_of_nulls hnulls hfinds ▸ h, hfinds⟩
    · rintro ⟨h, hfinds⟩
      rw [update_of_nulls hnulls hfinds, h]
  refine ⟨hresult, fun updated updated' h h' idCollection => ?_, ?_⟩
  · obtain ⟨hsame, -⟩ := (hresult updated').mp h'
    cases h.symm.trans hsame
    rfl
  · clear hresult
    induction hnulls with
    | refl => rfl
    | tail _ hnull ih => rw [documentVersion_of_nulled hnull, ih]

/-- An operation without parameters of its own. -/
def inheritingOperation : Members := [
  (.text "responses", .object [(.text "200", .object [(.text "description", .text "ok")])])]

theorem nulled_inheritingOperation : Members.Nulled "parameters" inheritingOperation
    ((.text "parameters", .null) :: inheritingOperation) :=
  @Members.Nulled.join _ [] _ (by decide)

/-- A path item of a tenant with such an operation, which may have more members. -/
def tenantItem (more : Members) : Members := [
  (.text "parameters", .array [.object [
    (.text "name", .text "tenant"), (.text "in", .text "path"), (.text "required", .bool true),
    (.text "schema", .object [(.text "type", .text "string")])]]),
  (.text "get", .object (more ++ inheritingOperation))]

def limitAndBuckets (limit buckets : Members) : Document := .object [
  (.text "openapi", .text "3.0.0"),
  (.text "info", .object [(.text "title", .text "DSH"), (.text "version", .text "1")]),
  (.text "paths", .object [
    (.text "/manage/\x7btenant\x7d/limit", .object (tenantItem limit)),
    (.text "/allocation/\x7btenant\x7d/bucket", .object (tenantItem buckets))])]

def bucketsPrepared : Document := value (update [] (limitAndBuckets [] [])) (by decide +kernel)

/-- The parameters of the limit are not looked at when managers are left out. -/
theorem update_with_nulls_limit :
    update [] (limitAndBuckets [] []) = .ok bucketsPrepared ∧
    ¬FindsNull [] (limitAndBuckets [(.text "parameters", .null)] []) := by
  have hnull := @Nulled.parameters (limitAndBuckets [] []) _ _ [] _ _ _ _ "get" _ _
    rfl rfl rfl rfl (by decide) rfl nulled_inheritingOperation
  have h : update [] (limitAndBuckets [(.text "parameters", .null)] []) = .ok bucketsPrepared := by
    decide +kernel
  exact ((update_with_nulls (.single hnull) []).1 bucketsPrepared).mp h

/-- Preparation has no result for the null in the place of the parameters of the buckets. -/
theorem update_null_parameters :
    Nulled (limitAndBuckets [] []) (limitAndBuckets [] [(.text "parameters", .null)]) ∧
    update [] (limitAndBuckets [] []) = .ok bucketsPrepared ∧
    update [] (limitAndBuckets [] [(.text "parameters", .null)]) = .error .unusable := by
  have hnull := @Nulled.parameters (limitAndBuckets [] []) _ _ [_] _ _ _ _ "get" _ _
    rfl rfl rfl rfl (by decide) rfl nulled_inheritingOperation
  exact ⟨hnull, eq_ok_value _ _, by decide +kernel⟩

end Update

end ClientGen
