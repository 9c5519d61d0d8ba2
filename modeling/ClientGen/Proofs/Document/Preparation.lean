import ClientGen.Document.Update
import ClientGen.Proofs.Document.Keys
import ClientGen.Proofs.Outcome

/-!
Prepared documents. Each operation object that stands at its path has the id made from its method
and path, and an authorization header among its parameters.
-/
namespace ClientGen

namespace Document

@[simp] theorem get_object (members : Members) (name : String) :
    (object members).get name = (Members.get? members name).getD null := rfl

theorem isObject_iff {document : Document} :
    document.isObject = true ↔ ∃ members, document.untie = object members := by
  unfold isObject
  split
  next members hmembers => simp [hmembers]
  next h => simpa using h

theorem isObject_of_get {document : Document} (name : String) (h : document.get name ≠ null) :
    document.isObject = true := by
  rw [isObject_iff]
  unfold get get? at h
  split at h
  next members hmembers => exact ⟨members, hmembers⟩
  · exact absurd rfl h

end Document

namespace Operation

theorem isAuthorization_authorization : isAuthorization Update.authorization = true := by
  decide +kernel

theorem isObject_of_isAuthorization {parameter : Document}
    (h : isAuthorization parameter = true) : parameter.isObject = true := by
  refine Document.isObject_of_get "name" fun hnull => ?_
  simp [isAuthorization, hnull, isAuthorizationName] at h

end Operation

namespace Update

open Outcome

/-- An operation object as preparation leaves it. -/
structure Prepared (template : PathTemplate) (method : String) (raw : Document) : Prop where
  id : ∃ id, Operation.synthesizeId method template = .ok id ∧ raw.get "operationId" = .text id
  header : ∃ parameters, raw.get "parameters" = .array parameters ∧
    ∃ parameter ∈ parameters, Operation.isAuthorization parameter = true

variable {features : List String} {document updated : Document} {template : PathTemplate}
  {method : String}

theorem withAuthorization_eq_ok {operation operation' : Members} :
    withAuthorization operation = .ok operation' ↔
      ∃ old, ((Members.get? operation "parameters").getD (.array [])).untie = .array old ∧
        operation' = Members.put operation "parameters" (.array
          (if ∃ parameter ∈ old, Operation.isAuthorization parameter = true then old
           else old ++ [authorization])) := by
  unfold withAuthorization
  constructor
  · intro h
    split at h
    next old hold =>
      cases h
      exact ⟨old, hold, by simp only [List.any_eq_true]⟩
    · cases h
  · rintro ⟨old, hold, rfl⟩
    simp only [hold, List.any_eq_true]

theorem withAuthorization_header {operation operation' : Members}
    (h : withAuthorization operation = .ok operation') :
    ∃ parameters, Members.get? operation' "parameters" = some (.array parameters) ∧
      ∃ parameter ∈ parameters, Operation.isAuthorization parameter = true := by
  obtain ⟨old, -, rfl⟩ := withAuthorization_eq_ok.mp h
  refine ⟨_, Members.get?_put_same _ _ _, ?_⟩
  split
  next hheader => exact hheader
  · exact ⟨authorization, by simp, Operation.isAuthorization_authorization⟩

theorem updateOperation_prepared {operation operation' : Members}
    (h : updateOperation template method operation = .ok operation') :
    Prepared template method (.object operation') := by
  simp only [updateOperation, bind_eq_ok, pure_eq_ok] at h
  obtain ⟨authorized, hauthorized, id, hid, rfl⟩ := h
  obtain ⟨parameters, hparameters, hheader⟩ := withAuthorization_header hauthorized
  refine ⟨⟨id, hid, ?_⟩, ⟨parameters, ?_, hheader⟩⟩
  · rw [Document.get_object, Members.get?_put_same]
    rfl
  · rw [Document.get_object, Members.get?_put_of_ne _ _ (by decide), hparameters]
    rfl

def operation? (item : Members) (method : String) : Option Members :=
  match (Members.get? item method).map Document.untie with
  | some (.object operation) => some operation
  | _ => none

theorem operation?_congr {item item' : Members}
    (h : Members.get? item' method = Members.get? item method) :
    operation? item' method = operation? item method := by
  rw [operation?, operation?, h]

theorem operation?_of_untie {item operation : Members} {raw : Document}
    (hraw : Members.get? item method = some raw) (h : raw.untie = .object operation) :
    operation? item method = some operation := by
  simp only [operation?, hraw, Option.map_some, h]

/-- A turn of a method changes its operation object, if there is one, and nothing else. -/
theorem updateMethod_eq_ok {item item' : Members} :
    updateMethod template item method = .ok item' ↔
      (operation? item method = none ∧ item' = item) ∨
      ∃ operation operation', operation? item method = some operation ∧
        updateOperation template method operation = .ok operation' ∧
        item' = Members.put item method (.object operation') := by
  unfold updateMethod operation?
  cases (Members.get? item method).map Document.untie with
  | none => simp [eq_comm]
  | some value =>
    cases value with
    | object operation =>
      simp only [bind_eq_ok, pure_eq_ok, reduceCtorEq, false_and, false_or, Option.some.injEq]
      constructor
      · rintro ⟨operation', hoperation', rfl⟩
        exact ⟨operation, operation', rfl, hoperation', rfl⟩
      · rintro ⟨_, operation', rfl, hoperation', rfl⟩
        exact ⟨operation', hoperation', rfl⟩
    | _ => simp [eq_comm]

theorem updateMethod_get?_of_ne {item item' : Members} {other : String}
    (h : updateMethod template item method = .ok item') (hne : method ≠ other) :
    Members.get? item' other = Members.get? item other := by
  rcases updateMethod_eq_ok.mp h with ⟨-, rfl⟩ | ⟨operation, operation', -, -, rfl⟩
  · rfl
  · exact Members.get?_put_of_ne _ _ hne

theorem updateMethod_prepared {item item' : Members}
    (h : updateMethod template item method = .ok item') {raw : Document}
    (hraw : Members.get? item' method = some raw) (hobject : raw.isObject = true) :
    Prepared template method raw := by
  rcases updateMethod_eq_ok.mp h with ⟨hnone, rfl⟩ | ⟨operation, operation', -, hupdate, rfl⟩
  · obtain ⟨operation, hoperation⟩ := Document.isObject_iff.mp hobject
    cases hnone.symm.trans (operation?_of_untie hraw hoperation)
  · rw [Members.get?_put_same] at hraw
    cases hraw
    exact updateOperation_prepared hupdate

/-- Once an operation is prepared it stays so while other methods have their turn. -/
theorem foldlM_updateMethod_prepared {names : List String} {item item' : Members}
    (h : names.foldlM (updateMethod template) item = .ok item') (hmethod : method ∈ names ∨
      ∀ raw, Members.get? item method = some raw → raw.isObject = true →
        Prepared template method raw) :
    ∀ raw, Members.get? item' method = some raw → raw.isObject = true →
      Prepared template method raw := by
  induction names generalizing item with
  | nil =>
    cases h
    simpa using hmethod
  | cons name rest ih =>
    rw [List.foldlM_cons, bind_eq_ok] at h
    obtain ⟨next, hnext, h⟩ := h
    by_cases hname : name = method
    · subst hname
      exact ih h (.inr fun raw => updateMethod_prepared hnext)
    · refine ih h ?_
      rw [updateMethod_get?_of_ne hnext hname]
      rcases hmethod with hmethod | hmethod
      · exact .inl ((List.mem_cons.mp hmethod).resolve_left (Ne.symm hname))
      · exact .inr hmethod

/-- An item has the turns of all methods, and a value that is no object has none. -/
theorem updateItem_eq_ok {item item' : Document} :
    updateItem template item = .ok item' ↔ (item.isObject = false ∧ item' = item) ∨
      ∃ members members', item.untie = .object members ∧
        methods.foldlM (updateMethod template) members = .ok members' ∧
        item' = .object members' := by
  unfold updateItem Document.isObject
  cases item.untie with
  | object members =>
    simp only [bind_eq_ok, pure_eq_ok, reduceCtorEq, false_and, false_or, Document.object.injEq,
      exists_eq_left', exists_and_left, @eq_comm _ item']
  | _ => simp [eq_comm]

theorem updateItem_prepared {item item' : Document} (h : updateItem template item = .ok item')
    (hmethod : method ∈ methods) {raw : Document} (hraw : item'.get? method = some raw)
    (hobject : raw.isObject = true) : Prepared template method raw := by
  rcases updateItem_eq_ok.mp h with ⟨hother, rfl⟩ | ⟨members, members', -, hmembers, rfl⟩
  · rw [Document.get?_of_not_isObject hother] at hraw
    cases hraw
  · exact foldlM_updateMethod_prepared hmembers (.inl hmethod) raw hraw hobject

/-- All that preparing a document does. -/
theorem update_eq_ok : update features document = .ok updated ↔
    ∃ members paths kept prepared info, document.untie = .object members ∧
      ((Members.get? members "paths").getD (.object [])).untie = .object paths ∧
      prune features paths = .ok kept ∧ kept.mapM updatePath = .ok prepared ∧
      updateInfo ((Members.get? (Members.put members "paths" (.object prepared)) "info").getD
        (.object [])) = .ok info ∧
      updated = .object
        (Members.put (Members.put members "paths" (.object prepared)) "info" info) := by
  unfold update
  constructor
  · intro h
    split at h
    next members hmembers =>
      split at h
      next paths hpaths =>
        simp only [bind_eq_ok, pure_eq_ok] at h
        obtain ⟨kept, hkept, prepared, hprepared, info, hinfo, rfl⟩ := h
        exact ⟨members, paths, kept, prepared, info, hmembers, hpaths, hkept, hprepared, hinfo,
          rfl⟩
      · cases h
    · cases h
  · rintro ⟨members, paths, kept, prepared, info, hmembers, hpaths, hkept, hprepared, hinfo, rfl⟩
    simp only [hmembers, hpaths, bind_eq_ok, pure_eq_ok]
    exact ⟨kept, hkept, prepared, hprepared, info, hinfo, rfl⟩

theorem paths_of_untie {members paths : Members} (hmembers : document.untie = .object members)
    (hpaths : ((Members.get? members "paths").getD (.object [])).untie = .object paths) :
    Operation.paths document = .ok paths := by
  have hobject : document.isObject = true := Document.isObject_iff.mpr ⟨members, hmembers⟩
  simp only [Operation.paths, hobject, Document.get, Document.get?, hmembers]
  cases hfound : Members.get? members "paths" with
  | none =>
    rw [hfound] at hpaths
    cases hpaths
    rfl
  | some value =>
    rw [hfound, Option.getD_some] at hpaths
    simp [Document.membersOrVoid?, hpaths]

theorem get?_paths_put (members paths : Members) (info : Document) :
    Members.get? (Members.put (Members.put members "paths" (.object paths)) "info" info) "paths" =
      some (.object paths) := by
  rw [Members.get?_put_of_ne _ _ (by decide), Members.get?_put_same]

theorem paths_of_update (h : update features document = .ok updated) :
    ∃ kept prepared : Members, Operation.paths updated = .ok prepared ∧
      kept.mapM updatePath = .ok prepared := by
  obtain ⟨members, paths, kept, prepared, info, -, -, -, hprepared, -, rfl⟩ := update_eq_ok.mp h
  refine ⟨kept, prepared, paths_of_untie rfl ?_, hprepared⟩
  rw [get?_paths_put]
  rfl

theorem updatePath_eq_ok {path path' : Scalar × Document} :
    updatePath path = .ok path' ↔ ∃ name template item', path.1 = .text name ∧
      PathTemplate.parse name = .ok template ∧ updateItem template path.2 = .ok item' ∧
      path' = (.text name, item') := by
  obtain ⟨key, item⟩ := path
  unfold updatePath
  constructor
  · intro h
    split at h
    next name item heq =>
      cases heq
      simp only [bind_eq_ok, pure_eq_ok] at h
      obtain ⟨template, htemplate, item', hitem, rfl⟩ := h
      exact ⟨name, template, item', rfl, htemplate, hitem, rfl⟩
    · cases h
  · rintro ⟨name, template, item', rfl, htemplate, hitem, rfl⟩
    simp only [bind_eq_ok, pure_eq_ok]
    exact ⟨template, htemplate, item', hitem, rfl⟩

end Update

end ClientGen
