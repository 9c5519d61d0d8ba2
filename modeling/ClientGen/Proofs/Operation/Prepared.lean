import ClientGen.Proofs.Document.Preparation
import ClientGen.Proofs.Generation.Stages
import ClientGen.Proofs.Operation.Collection
import ClientGen.Proofs.Operation.Identity

/-!
Operations collected from prepared documents. Those whose path items and authorization headers stand
in place have the id of their method and path and require a token; a reference can lead extraction
to an operation that preparation has not met there.
-/
namespace ClientGen.Operation

open Outcome

variable {features : List String} {document updated : Document} {idCollection : String}
  {collection : Collection} {operation : Operation}

/-- What preparation means an operation to be: named after its method and path, and called with a
token. -/
structure AsPrepared (operation : Operation) : Prop where
  template : PathTemplate.parse operation.path = .ok operation.template
  id : synthesizeId operation.method.name operation.template = .ok operation.operationId
  token : operation.requiresToken = true

/-- The path item and the operation object from which an operation is collected. -/
structure Origin (document : Document) (idCollection : String) (operation : Operation)
    (item raw : Document) : Prop where
  path : ∃ members, paths document = .ok members ∧ (.text operation.path, item) ∈ members
  isRaw : IsRaw document operation.method item raw
  extracted : extract operation.method operation.path raw document idCollection =
    .ok { operation with selector := operation.defaultSelector }

/-- Whether neither a path item nor an authorization header of its operation is a reference to
follow. -/
structure InPlace (item raw : Document) : Prop where
  item : Reference.next? item = none
  headers : ∀ parameters, raw.get "parameters" = .array parameters →
    ∀ parameter ∈ parameters, isAuthorization parameter = true →
      Reference.next? parameter = none

theorem mem_operations {collection : Collection} :
    operation ∈ collection.operations ↔
      ∃ method operations, (method, operations) ∈ collection ∧ operation ∈ operations := by
  simp [Collection.operations]

theorem origin_of_collect (h : collect document idCollection = .ok collection)
    (hmem : operation ∈ collection.operations) :
    operation.method ∈ Method.supported ∧
      ∃ item raw, Origin document idCollection operation item raw := by
  obtain ⟨method, operations, hentry, hoperation⟩ := mem_operations.mp hmem
  obtain ⟨hmethod, hcollect⟩ := collectMethod_of_mem h hentry
  obtain ⟨raws, raw, hraws, hraw, hextract⟩ := extract_of_mem_collectMethod hcollect hoperation
  obtain ⟨members, item, hmembers, hitem, hisRaw⟩ := (mem_rawOf hraws).mp hraw
  have hsame : operation.method = method := (extracted_of_extract hextract).method_eq
  subst hsame
  exact ⟨hmethod, item, raw, ⟨members, hmembers, hitem⟩, hisRaw, hextract⟩

/-- Among the parameters of the caller's operation, a token is required exactly when one is the
authorization header. -/
theorem requiresToken_eq_any {parameters : List Document} {id path : String} {method : Method}
    {given : List Parameter} {token : Bool}
    (h : callerParameters parameters id method path = .ok (given, token)) :
    token = parameters.any isAuthorization := by
  cases parameters with
  | nil =>
    cases h
    rfl
  | cons tenant rest =>
    obtain ⟨htenant, -, rfl⟩ := callerParameters_cons_eq_ok.mp h
    simp [htenant]

theorem mem_mergedParameters {path : String} {raw : Document} {merged : List Document}
    (h : mergedParameters document path raw = .ok merged) {parameters : List Document}
    (hparameters : raw.get "parameters" = .array parameters) {parameter : Document}
    (hmem : parameter ∈ parameters) (hobject : parameter.isObject = true)
    (hnext : Reference.next? parameter = none) : parameter ∈ merged := by
  simp only [mergedParameters, bind_eq_ok] at h
  obtain ⟨item, -, h⟩ := h
  split at h
  · cases h
  · simp only [bind_eq_ok, pure_eq_ok] at h
    obtain ⟨inherited, -, own, hown, declared, -, keyed, -, rfl⟩ := h
    apply List.mem_append_right
    have hvoid : parameters.isEmpty = false := by
      cases parameters with
      | nil => simp at hmem
      | cons first rest => rfl
    simp only [parameterObjects, hparameters, Document.isVoid, hvoid, Document.elements?,
      Document.untie_array] at hown
    obtain ⟨resolved, hresolved, hread⟩ := exists_mem_of_mapM hown hmem
    simp only [resolveParameter, Reference.resolve, hnext, Option.isNone_none, if_true,
      hobject] at hread
    cases hread
    exact hresolved

theorem get_operationId {item raw : Document}
    (horigin : Origin document idCollection operation item raw) :
    raw.get "operationId" = .text operation.operationId := by
  have h := (extracted_of_extract horigin.extracted).id_eq
  unfold idOf? at h
  split at h
  next id hget =>
    split at h
    · cases h
    · rw [hget]
      cases h
      rfl
  · cases h

/-- Extraction gives an operation the id that its operation object carries, and a token when one of
the merged parameters is the authorization header. -/
theorem asPrepared_iff {item raw : Document}
    (horigin : Origin document idCollection operation item raw) :
    ∃ merged, mergedParameters document operation.path raw = .ok merged ∧
      (AsPrepared operation ↔
        (∃ id, synthesizeId operation.method.name operation.template = .ok id ∧
          raw.get "operationId" = .text id) ∧
        ∃ parameter ∈ merged, isAuthorization parameter = true) := by
  have hextracted := extracted_of_extract horigin.extracted
  obtain ⟨merged, hmerged, hcaller⟩ := hextracted.parameters_eq
  have hid := get_operationId horigin
  have htoken := requiresToken_eq_any hcaller
  refine ⟨merged, hmerged, ?_, ?_⟩
  · intro h
    refine ⟨⟨operation.operationId, h.id, hid⟩, ?_⟩
    simpa [h.token] using htoken
  · rintro ⟨⟨id, hsynthesized, hsame⟩, parameter, hparameter, hheader⟩
    rw [hid] at hsame
    cases hsame
    refine ⟨hextracted.template_eq, hsynthesized, ?_⟩
    rw [htoken]
    exact List.any_eq_true.mpr ⟨parameter, hparameter, hheader⟩

theorem name_mem_methods {method : Method} (h : method ∈ Method.supported) :
    method.name ∈ Update.methods := by
  revert h
  cases method <;> decide

/-- Where the path item of an operation is no reference, preparation wrote what is collected. -/
theorem prepared_of_inPlace (hu : Update.update features document = .ok updated)
    {item raw : Document} (horigin : Origin updated idCollection operation item raw)
    (hmethod : operation.method ∈ Method.supported) (hnext : Reference.next? item = none) :
    Update.Prepared operation.template operation.method.name raw := by
  obtain ⟨kept, prepared, hpaths, hprepared⟩ := Update.paths_of_update hu
  obtain ⟨members, hmembers, hitem⟩ := horigin.path
  cases hpaths.symm.trans hmembers
  obtain ⟨entry, -, hentry⟩ := exists_of_mem_mapM hprepared hitem
  obtain ⟨name, template, item', -, htemplate, hitem', heq⟩ := Update.updatePath_eq_ok.mp hentry
  cases heq
  obtain ⟨target, htarget, hraw, hobject⟩ := horigin.isRaw
  have hsame : target = item := by
    simp only [Reference.resolve, hnext, Option.isNone_none, if_true] at htarget
    cases htarget
    rfl
  subst hsame
  have hparsed : PathTemplate.parse operation.path = .ok operation.template :=
    (extracted_of_extract horigin.extracted).template_eq
  cases htemplate.symm.trans hparsed
  exact Update.updateItem_prepared hitem' (name_mem_methods hmethod) hraw hobject

theorem synthesizeId_of_inPlace (hu : Update.update features document = .ok updated)
    {item raw : Document} (horigin : Origin updated idCollection operation item raw)
    (hmethod : operation.method ∈ Method.supported) (hnext : Reference.next? item = none) :
    synthesizeId operation.method.name operation.template = .ok operation.operationId := by
  obtain ⟨id, hid, hget⟩ := (prepared_of_inPlace hu horigin hmethod hnext).id
  rw [get_operationId horigin] at hget
  cases hget
  exact hid

/-- An operation collected from a prepared document is named after its method and path and called
with a token, unless its path item or its authorization header is a reference. Then that holds
exactly when what the references lead to carries the same id and an authorization header. -/
theorem collected_asPrepared (hu : Update.update features document = .ok updated)
    (hc : collect updated idCollection = .ok collection)
    (hmem : operation ∈ collection.operations) :
    ∃ item raw merged, Origin updated idCollection operation item raw ∧
      mergedParameters updated operation.path raw = .ok merged ∧
      (InPlace item raw →
        AsPrepared operation ∧ Text.isIdentifier operation.operationId = true) ∧
      (AsPrepared operation ↔
        (∃ id, synthesizeId operation.method.name operation.template = .ok id ∧
          raw.get "operationId" = .text id) ∧
        ∃ parameter ∈ merged, isAuthorization parameter = true) := by
  obtain ⟨hmethod, item, raw, horigin⟩ := origin_of_collect hc hmem
  obtain ⟨merged, hmerged, hiff⟩ := asPrepared_iff horigin
  refine ⟨item, raw, merged, horigin, hmerged, fun hplace => ?_, hiff⟩
  have hprepared := prepared_of_inPlace hu horigin hmethod hplace.item
  obtain ⟨parameters, hparameters, header, hheader, hauthorization⟩ := hprepared.header
  have hmerge : header ∈ merged :=
    mem_mergedParameters hmerged hparameters hheader (isObject_of_isAuthorization hauthorization)
      (hplace.headers parameters hparameters header hheader hauthorization)
  have has := hiff.mpr ⟨hprepared.id, header, hmerge, hauthorization⟩
  exact ⟨has, (synthesizeId_eq_ok.mp has.id).2.2⟩

def pathParameter (name : String) : Document :=
  .object [(.text "name", .text name), (.text "in", .text "path"),
    (.text "schema", .object [(.text "type", .text "string")])]

def readItem (parameters : List Document) : Document :=
  .object [(.text "get", .object [(.text "parameters", .array parameters),
    (.text "responses", .object [
      (.text "200", .object [(.text "description", .text "ok")])])])]

/-- Buckets, and volumes whose path item refers to the one of the buckets. -/
def referringDocument : Document := .object [
  (.text "paths", .object [
    (.text "/allocation/\x7btenant\x7d/bucket", readItem [pathParameter "tenant"]),
    (.text "/allocation/\x7btenant\x7d/volume", .object [
      (.text "$ref", .text "#/paths/~1allocation~1\x7btenant\x7d~1bucket")])])]

def referringPrepared : Document :=
  (Update.update [] referringDocument).toOption.getD .null

theorem update_referringDocument :
    Update.update [] referringDocument = .ok referringPrepared := by
  decide +kernel

def bucketRead : Operation :=
  { sampleOperation .get "/allocation/\x7btenant\x7d/bucket"
      [.literal "allocation", .placeholder "tenant", .literal "bucket"] "get_bucket" "bucket" with
    requiresToken := true }

/-- The operation on volumes, read through the reference. -/
def volumeRead : Operation :=
  { sampleOperation .get "/allocation/\x7btenant\x7d/volume"
      [.literal "allocation", .placeholder "tenant", .literal "volume"] "get_bucket" "volume" with
    requiresToken := true }

theorem collect_referringPrepared : collect referringPrepared "ChildList" =
    .ok [(.get, [bucketRead, volumeRead]), (.delete, []), (.post, []), (.put, [])] := by
  have hreads : collectMethod referringPrepared "ChildList" .get =
      .ok [bucketRead, volumeRead] :=
    collectMethod_of_ordered [bucketRead, volumeRead] (by decide +kernel) (by decide +kernel)
      (by decide +kernel)
  refine collect_of_methods ?_ ?_ hreads ?_ ?_ ?_
  all_goals decide +kernel

theorem collected_asPrepared_bucket :
    Update.update [] referringDocument = .ok referringPrepared ∧
    collect referringPrepared "ChildList" =
      .ok [(.get, [bucketRead, volumeRead]), (.delete, []), (.post, []), (.put, [])] ∧
    ∃ item raw merged, Origin referringPrepared "ChildList" bucketRead item raw ∧
      mergedParameters referringPrepared bucketRead.path raw = .ok merged ∧
      (InPlace item raw →
        AsPrepared bucketRead ∧ Text.isIdentifier bucketRead.operationId = true) ∧
      (AsPrepared bucketRead ↔
        (∃ id, synthesizeId bucketRead.method.name bucketRead.template = .ok id ∧
          raw.get "operationId" = .text id) ∧
        ∃ parameter ∈ merged, isAuthorization parameter = true) :=
  ⟨update_referringDocument, collect_referringPrepared,
    collected_asPrepared update_referringDocument collect_referringPrepared
      (by simp [Collection.operations])⟩

/-- Preparation does not follow the reference of a path item, but extraction does. The operation on
volumes has the id of the one on buckets. -/
theorem not_asPrepared_volume :
    Update.update [] referringDocument = .ok referringPrepared ∧
    collect referringPrepared "ChildList" =
      .ok [(.get, [bucketRead, volumeRead]), (.delete, []), (.post, []), (.put, [])] ∧
    synthesizeId volumeRead.method.name volumeRead.template = .ok "get_volume" ∧
    volumeRead.operationId = "get_bucket" := by
  refine ⟨update_referringDocument, collect_referringPrepared, ?_, rfl⟩
  decide +kernel

end ClientGen.Operation
