import ClientGen.Operation.Extract
import ClientGen.Proofs.Document.Keys
import ClientGen.Proofs.Operation.Widening

/-!
Collected operations. Every path on which a method has an operation gives one collected operation,
which is what extraction makes of it but for the selector; the selectors ascend strictly, and one
is widened exactly when an operation of a lesser path holds the default.
-/
namespace ClientGen.Operation

open Outcome

variable {document : Document} {idCollection : String} {method : Method}

theorem paths_distinct (once : document.keysOnce) {members : Members}
    (h : paths document = .ok members) : Members.Distinct members := by
  unfold paths at h
  split at h
  · cases h
  · split at h
    next found =>
      cases h
      exact Document.distinct_of_membersOrVoid? (Document.keysOnce_get once _) found
    · cases h

/-- The operation of a method that the item of a path has, if its reference is followed. -/
def IsRaw (document : Document) (method : Method) (item raw : Document) : Prop :=
  ∃ target, Reference.resolve document item = .ok target ∧
    target.get? method.name = some raw ∧ raw.isObject = true

theorem mem_rawOf {raws : List (Scalar × Document)} (h : rawOf document method = .ok raws)
    {key : Scalar} {raw : Document} :
    (key, raw) ∈ raws ↔ ∃ members item, paths document = .ok members ∧
      (key, item) ∈ members ∧ IsRaw document method item raw := by
  simp only [rawOf, bind_eq_ok, pure_eq_ok] at h
  obtain ⟨members, hmembers, items, hitems, rfl⟩ := h
  rw [List.mem_filterMap]
  constructor
  · rintro ⟨⟨path, found⟩, hmem, hraw⟩
    obtain ⟨⟨path', item⟩, hitem, hread⟩ := exists_of_mem_mapM hitems hmem
    simp only [bind_eq_ok, pure_eq_ok, Prod.mk.injEq] at hread
    obtain ⟨target, htarget, rfl, rfl⟩ := hread
    cases hfound : target.get? method.name with
    | none => simp [hfound] at hraw
    | some operation =>
      simp only [hfound] at hraw
      split at hraw
      next hobject =>
        cases hraw
        exact ⟨members, item, hmembers, hitem, target, htarget, hfound, hobject⟩
      · cases hraw
  · rintro ⟨members', item, hmembers', hitem, target, htarget, hfound, hobject⟩
    cases hmembers.symm.trans hmembers'
    obtain ⟨⟨path, found⟩, hmem, hread⟩ := exists_mem_of_mapM hitems hitem
    simp only [bind_eq_ok, pure_eq_ok, Prod.mk.injEq] at hread
    obtain ⟨target', htarget', rfl, rfl⟩ := hread
    cases htarget.symm.trans htarget'
    exact ⟨_, hmem, by simp [hfound, hobject]⟩

theorem resolve_of_rawOf {raws : List (Scalar × Document)}
    (h : rawOf document method = .ok raws) {members : Members}
    (hmembers : paths document = .ok members) {key : Scalar} {item : Document}
    (hmem : (key, item) ∈ members) : ∃ target, Reference.resolve document item = .ok target := by
  simp only [rawOf, bind_eq_ok, pure_eq_ok] at h
  obtain ⟨members', hmembers', items, hitems, -⟩ := h
  cases hmembers.symm.trans hmembers'
  obtain ⟨entry, -, hentry⟩ := exists_mem_of_mapM hitems hmem
  simp only [bind_eq_ok] at hentry
  obtain ⟨target, htarget, -⟩ := hentry
  exact ⟨target, htarget⟩

theorem rawOf_keys_nodup_of_distinct {members : Members} (hpaths : paths document = .ok members)
    (distinct : Members.Distinct members) {raws : List (Scalar × Document)}
    (h : rawOf document method = .ok raws) : (raws.map (·.1)).Nodup := by
  simp only [rawOf, bind_eq_ok, pure_eq_ok] at h
  obtain ⟨members', hmembers, items, hitems, rfl⟩ := h
  cases hpaths.symm.trans hmembers
  have hkeys : items.map (·.1) = members.map (·.1) := by
    have hall := mapM_eq_ok.mp hitems
    clear hitems hmembers hpaths distinct
    induction hall with
    | nil => rfl
    | @cons member found members items head _ ih =>
      simp only [bind_eq_ok, pure_eq_ok] at head
      obtain ⟨_, _, rfl⟩ := head
      simp [ih]
  refine List.Nodup.sublist ?_ (hkeys ▸ distinct.keys_nodup)
  clear hitems hkeys
  induction items with
  | nil => simp
  | cons entry rest ih =>
    obtain ⟨key, found⟩ := entry
    cases found with
    | none => simpa using ih.cons key
    | some operation =>
      cases hobject : operation.isObject
      · simpa [hobject] using ih.cons key
      · simpa [hobject] using ih

theorem rawOf_keys_nodup (once : document.keysOnce) {raws : List (Scalar × Document)}
    (h : rawOf document method = .ok raws) : (raws.map (·.1)).Nodup := by
  have hraws := h
  simp only [rawOf, bind_eq_ok] at h
  obtain ⟨members, hmembers, -⟩ := h
  exact rawOf_keys_nodup_of_distinct hmembers (paths_distinct once hmembers) hraws

/-- The parameters that a list gives to the caller. -/
def given (parameters : List Document) (operationId : String) : Except Failure (List Parameter) :=
  (parameters.filter fun parameter => !isAuthorization parameter).mapM fun parameter =>
    Parameter.read parameter operationId

theorem callerParameters_cons_eq_ok {tenant : Document} {rest : List Document}
    {path operationId : String} {parameters : List Parameter} {token : Bool} :
    callerParameters (tenant :: rest) operationId method path = .ok (parameters, token) ↔
      isAuthorization tenant = false ∧ given rest operationId = .ok parameters ∧
        rest.any isAuthorization = token := by
  unfold callerParameters given
  cases htenant : isAuthorization tenant <;>
    simp [htenant, bind_eq_ok, pure_eq_ok, -bind_pure_comp]

/-- All that reading one operation succeeds with. -/
structure Extracted (document : Document) (idCollection : String) (method : Method)
    (path : String) (raw : Document) (operation : Operation) : Prop where
  method_eq : operation.method = method
  path_eq : operation.path = path
  template_eq : PathTemplate.parse path = .ok operation.template
  kind_eq : operation.template.kind path = .ok operation.kind
  id_eq : idOf? raw = some operation.operationId
  parameters_eq : ∃ merged, mergedParameters document path raw = .ok merged ∧
    callerParameters merged operation.operationId method path =
      .ok (operation.parameters, operation.requiresToken)
  selector_eq : operation.selector = operation.defaultSelector

theorem extracted_of_extract {path : String} {raw : Document} {operation : Operation}
    (h : extract method path raw document idCollection = .ok operation) :
    Extracted document idCollection method path raw operation := by
  unfold extract at h
  split at h
  · cases h
  · split at h
    · cases h
    next id hid =>
      simp only [bind_eq_ok] at h
      obtain ⟨template, htemplate, kind, hkind, merged, hmerged, ⟨given, token⟩, hgiven, body,
        hbody, responses, hresponses, h⟩ := h
      split at h
      · cases h
      · cases h
        exact ⟨rfl, rfl, htemplate, hkind, hid, ⟨merged, hmerged, hgiven⟩, rfl⟩

theorem schemaType_of_read {object : Document} {id : String} {parameter : Parameter}
    (h : Parameter.read object id = .ok parameter) : ∃ schema,
      object.get? "schema" = some schema ∧
        Parameter.schemaType schema id parameter.name = .ok parameter.type := by
  unfold Parameter.read at h
  split at h
  · cases h
  · cases h
  · split_ifs at h
    split at h
    next schema _ hschema =>
      simp only [bind_eq_ok, pure_eq_ok] at h
      obtain ⟨type, htype, _, -, rfl⟩ := h
      exact ⟨schema, hschema, htype⟩
    · cases h

theorem read_of_mem_parameters {path : String} {raw : Document} {operation : Operation}
    (h : extract method path raw document idCollection = .ok operation) {parameter : Parameter}
    (hmem : parameter ∈ operation.parameters) :
    ∃ object, Parameter.read object operation.operationId = .ok parameter := by
  obtain ⟨merged, -, hcaller⟩ := (extracted_of_extract h).parameters_eq
  cases merged with
  | nil =>
    simp only [callerParameters, Except.ok.injEq, Prod.mk.injEq] at hcaller
    rw [← hcaller.1] at hmem
    cases hmem
  | cons tenant rest =>
    obtain ⟨-, hread, -⟩ := callerParameters_cons_eq_ok.mp hcaller
    obtain ⟨object, -, hobject⟩ := exists_of_mem_mapM hread hmem
    exact ⟨object, hobject⟩

theorem body_of_extract {path : String} {raw : Document} {operation : Operation}
    (h : extract method path raw document idCollection = .ok operation) :
    bodyType? document raw = .ok operation.body := by
  unfold extract at h
  split at h
  · cases h
  · split at h
    · cases h
    · simp only [bind_eq_ok] at h
      obtain ⟨_, -, _, -, _, -, ⟨_, _⟩, -, body, hbody, _, -, h⟩ := h
      split at h
      · cases h
      · cases h
        exact hbody

theorem okResponse_of_extract {path : String} {raw : Document} {operation : Operation}
    (h : extract method path raw document idCollection = .ok operation) :
    ∃ types status, responseTypes document idCollection raw = .ok types ∧
      leastResponse? (types.filter fun response => isOk response.1) =
        some (status, operation.okResponse) := by
  unfold extract at h
  split at h
  · cases h
  · split at h
    · cases h
    · simp only [bind_eq_ok] at h
      obtain ⟨_, -, _, -, _, -, ⟨_, _⟩, -, _, -, types, htypes, h⟩ := h
      split at h
      · cases h
      next status response hleast =>
        cases h
        exact ⟨types, status, htypes, hleast⟩

theorem extractAt_eq_ok {key : Scalar} {raw : Document} {operation : Operation} :
    extractAt method key raw document idCollection = .ok operation ↔
      key = .text operation.path ∧
        extract method operation.path raw document idCollection = .ok operation := by
  constructor
  · intro h
    unfold extractAt at h
    split at h
    next path =>
      have hpath := (extracted_of_extract h).path_eq
      subst hpath
      exact ⟨rfl, h⟩
    · split at h <;> cases h
  · rintro ⟨rfl, h⟩
    exact h

theorem refuse_eq_ok : refuse document method = .ok () ↔ rawOf document method = .ok [] := by
  simp only [refuse, bind_eq_ok]
  constructor
  · rintro ⟨raws, hraws, h⟩
    cases raws with
    | nil => exact hraws
    | cons raw rest =>
      dsimp only at h
      split at h <;> cases h
  · intro h
    exact ⟨[], h, rfl⟩

/-- The operations of one method are those that extraction gives, sorted, widened and sorted
again. -/
theorem collectMethod_eq_ok {operations : List Operation} :
    collectMethod document idCollection method = .ok operations ↔
      ∃ raws sources, rawOf document method = .ok raws ∧
        (raws.mapM fun raw => extractAt method raw.1 raw.2 document idCollection) =
          .ok sources ∧
        ((widen [] (sortByPath sources)).map (·.selector)).Nodup ∧
        operations = sort (widen [] (sortByPath sources)) := by
  simp only [collectMethod, bind_eq_ok, pure_eq_ok, assignSelectors_eq_ok]
  constructor
  · rintro ⟨raws, hraws, sources, hsources, assigned, ⟨rfl, hnodup⟩, rfl⟩
    exact ⟨raws, sources, hraws, hsources, hnodup, rfl⟩
  · rintro ⟨raws, sources, hraws, hsources, hnodup, rfl⟩
    exact ⟨raws, hraws, sources, hsources, _, ⟨rfl, hnodup⟩, rfl⟩

/-- Each source is what extraction gives for its path, with the default selector. -/
theorem extract_of_mem_sources {raws : List (Scalar × Document)} {sources : List Operation}
    (h : (raws.mapM fun raw => extractAt method raw.1 raw.2 document idCollection) = .ok sources)
    {source : Operation} (hsource : source ∈ sources) :
    ∃ raw, (.text source.path, raw) ∈ raws ∧
      extract method source.path raw document idCollection = .ok source ∧
      source.selector = source.defaultSelector := by
  obtain ⟨⟨key, raw⟩, hraw, hextract⟩ := exists_of_mem_mapM h hsource
  obtain ⟨rfl, hextract⟩ := extractAt_eq_ok.mp hextract
  exact ⟨raw, hraw, hextract, (extracted_of_extract hextract).selector_eq⟩

theorem sources_map_path {raws : List (Scalar × Document)} {sources : List Operation}
    (h : (raws.mapM fun raw => extractAt method raw.1 raw.2 document idCollection) =
      .ok sources) :
    sources.map (fun source => Scalar.text source.path) = raws.map (·.1) := by
  have hall := mapM_eq_ok.mp h
  clear h
  induction hall with
  | nil => rfl
  | cons head _ ih => simp [ih, (extractAt_eq_ok.mp head).1]

theorem sources_paths_nodup_of_keys {raws : List (Scalar × Document)} {sources : List Operation}
    (h : (raws.mapM fun raw => extractAt method raw.1 raw.2 document idCollection) = .ok sources)
    (distinct : (raws.map (·.1)).Nodup) : (sources.map (·.path)).Nodup := by
  apply List.Nodup.of_map Scalar.text
  rw [List.map_map]
  exact (sources_map_path h).symm ▸ distinct

theorem sources_paths_nodup (once : document.keysOnce) {raws : List (Scalar × Document)}
    {sources : List Operation} (hraws : rawOf document method = .ok raws)
    (h : (raws.mapM fun raw => extractAt method raw.1 raw.2 document idCollection) =
      .ok sources) : (sources.map (·.path)).Nodup :=
  sources_paths_nodup_of_keys h (rawOf_keys_nodup once hraws)

/-- A collected operation is what extraction gives for its path, but for the selector. -/
theorem extract_of_mem_collectMethod {operations : List Operation}
    (h : collectMethod document idCollection method = .ok operations) {operation : Operation}
    (hmem : operation ∈ operations) :
    ∃ raws raw, rawOf document method = .ok raws ∧ (.text operation.path, raw) ∈ raws ∧
      extract method operation.path raw document idCollection =
        .ok { operation with selector := operation.defaultSelector } := by
  obtain ⟨raws, sources, hraws, hsources, -, rfl⟩ := collectMethod_eq_ok.mp h
  obtain ⟨before, source, after, hsplit, rfl⟩ := mem_widen ((sort_perm _).mem_iff.mp hmem)
  have hsource : source ∈ sources := (sortByPath_perm sources).mem_iff.mp (by simp [hsplit])
  obtain ⟨raw, hraw, hextract, hdefault⟩ := extract_of_mem_sources hsources hsource
  refine ⟨raws, raw, hraws, by simpa using hraw, ?_⟩
  rw [settled_path, settled_defaultSelector, settled_eq, ← hdefault]
  exact hextract

theorem sort_of_pairwise {operations : List Operation}
    (h : operations.Pairwise (fun a b => a.selector < b.selector)) :
    sort operations = operations :=
  List.mergeSort_of_pairwise (h.imp fun hlt => by simp [precedes, hlt])

theorem collectMethod_of_ordered (sources : List Operation)
    (hsources : (rawOf document method >>= fun raws => raws.mapM fun raw =>
      extractAt method raw.1 raw.2 document idCollection) = .ok sources)
    (hpaths : sources.Pairwise (fun a b => a.path ≤ b.path))
    (hselectors : (widen [] sources).Pairwise (fun a b => a.selector < b.selector)) :
    collectMethod document idCollection method = .ok (widen [] sources) := by
  obtain ⟨raws, hraws, hsources⟩ := bind_eq_ok.mp hsources
  have hsorted : sortByPath sources = sources :=
    List.mergeSort_of_pairwise (hpaths.imp fun hle => by simpa using hle)
  refine collectMethod_eq_ok.mpr ⟨raws, sources, hraws, hsources, ?_, ?_⟩
  · rw [hsorted, List.Nodup, List.pairwise_map]
    exact hselectors.imp fun hlt => ne_of_lt hlt
  · rw [hsorted, sort_of_pairwise hselectors]

theorem collect_eq_ok {collection : Collection} :
    collect document idCollection = .ok collection ↔
      rawOf document .head = .ok [] ∧ rawOf document .patch = .ok [] ∧
      List.Forall₂ (fun method entry =>
        entry.1 = method ∧ collectMethod document idCollection method = .ok entry.2)
        Method.supported collection := by
  have hentry : ∀ (method : Method) (entry : Method × List Operation),
      (do return (method, ← collectMethod document idCollection method)) = .ok entry ↔
        entry.1 = method ∧ collectMethod document idCollection method = .ok entry.2 := by
    rintro method ⟨method', operations⟩
    simp only [bind_eq_ok, pure_eq_ok, Prod.mk.injEq]
    constructor
    · rintro ⟨found, hfound, rfl, rfl⟩
      exact ⟨rfl, hfound⟩
    · rintro ⟨rfl, hfound⟩
      exact ⟨_, hfound, rfl, rfl⟩
  have hrefused : Method.unsupported.forM (refuse document) = .ok () ↔
      rawOf document .head = .ok [] ∧ rawOf document .patch = .ok [] := by
    simp only [Method.unsupported, List.forM, bind_eq_ok, pure_eq_ok, ← refuse_eq_ok]
    constructor
    · rintro ⟨⟨⟩, hhead, ⟨⟩, hpatch, -⟩
      exact ⟨hhead, hpatch⟩
    · rintro ⟨hhead, hpatch⟩
      exact ⟨(), hhead, (), hpatch, trivial⟩
  simp only [collect, bind_eq_ok, mapM_eq_ok, hentry]
  constructor
  · rintro ⟨⟨⟩, hnone, hall⟩
    exact ⟨(hrefused.mp hnone).1, (hrefused.mp hnone).2, hall⟩
  · rintro ⟨hhead, hpatch, hall⟩
    exact ⟨(), hrefused.mpr ⟨hhead, hpatch⟩, hall⟩

theorem collect_of_methods {gets deletes posts puts : List Operation}
    (hhead : rawOf document .head = .ok []) (hpatch : rawOf document .patch = .ok [])
    (hget : collectMethod document idCollection .get = .ok gets)
    (hdelete : collectMethod document idCollection .delete = .ok deletes)
    (hpost : collectMethod document idCollection .post = .ok posts)
    (hput : collectMethod document idCollection .put = .ok puts) :
    collect document idCollection =
      .ok [(.get, gets), (.delete, deletes), (.post, posts), (.put, puts)] :=
  collect_eq_ok.mpr ⟨hhead, hpatch, .cons ⟨rfl, hget⟩ (.cons ⟨rfl, hdelete⟩
    (.cons ⟨rfl, hpost⟩ (.cons ⟨rfl, hput⟩ .nil)))⟩

theorem collectMethod_of_mem {collection : Collection}
    (h : collect document idCollection = .ok collection) {operations : List Operation}
    (hmem : (method, operations) ∈ collection) :
    method ∈ Method.supported ∧
      collectMethod document idCollection method = .ok operations := by
  obtain ⟨-, -, hall⟩ := collect_eq_ok.mp h
  clear h
  generalize Method.supported = methods at hall
  induction hall with
  | nil => simp at hmem
  | cons head _ ih =>
    rcases List.mem_cons.mp hmem with rfl | hmem
    · obtain ⟨rfl, hcollect⟩ := head
      exact ⟨List.mem_cons_self, hcollect⟩
    · obtain ⟨hmethod, hcollect⟩ := ih hmem
      exact ⟨List.mem_cons_of_mem _ hmethod, hcollect⟩

theorem selectors_nodup {operations : List Operation}
    (h : collectMethod document idCollection method = .ok operations) :
    (operations.map (·.selector)).Nodup := by
  obtain ⟨raws, sources, -, -, hnodup, rfl⟩ := collectMethod_eq_ok.mp h
  exact ((sort_perm _).map _).nodup_iff.mpr hnodup

theorem collection_methods {collection : Collection}
    (h : collect document idCollection = .ok collection) :
    collection.map (·.1) = Method.supported := by
  obtain ⟨-, -, hall⟩ := collect_eq_ok.mp h
  clear h
  generalize Method.supported = methods at hall
  induction hall with
  | nil => rfl
  | cons head _ ih => simp [head.1, ih]

/-- What the collected operations of a method owe to the document. -/
structure Faithful (document : Document) (idCollection : String) (method : Method)
    (operations : List Operation) : Prop where
  ascending : operations.Pairwise (fun a b => a.selector < b.selector)
  paths : ∃ raws, rawOf document method = .ok raws ∧ (raws.map (·.1)).Nodup ∧
    (operations.map fun operation => Scalar.text operation.path).Perm (raws.map (·.1)) ∧
    ∀ operation ∈ operations, ∃ raw, (.text operation.path, raw) ∈ raws ∧
      extract method operation.path raw document idCollection =
        .ok { operation with selector := operation.defaultSelector }
  widened : ∀ operation ∈ operations, operation.selector ≠ operation.defaultSelector ↔
    ∃ other ∈ operations, other.path < operation.path ∧
      other.selector = operation.defaultSelector
  wide : ∀ operation ∈ operations, operation.selector ≠ operation.defaultSelector →
    operation.selector = operation.wideSelector

theorem faithful_collectMethod (once : document.keysOnce) {operations : List Operation}
    (h : collectMethod document idCollection method = .ok operations) :
    Faithful document idCollection method operations := by
  obtain ⟨raws, sources, hraws, hsources, hnodup, rfl⟩ := collectMethod_eq_ok.mp h
  have hkeys := rawOf_keys_nodup once hraws
  have hpaths := sources_paths_nodup once hraws hsources
  have hdefaults : ∀ source ∈ sortByPath sources, source.selector = source.defaultSelector := by
    intro source hsource
    obtain ⟨_, _, _, hdefault⟩ :=
      extract_of_mem_sources hsources ((sortByPath_perm sources).mem_iff.mp hsource)
    exact hdefault
  have hselectors := fun operation (hmem : operation ∈ widen [] (sortByPath sources)) =>
    selector_of_mem_widen (sortByPath_strict hpaths) hdefaults hnodup hmem
  refine ⟨sort_strict hnodup, ⟨raws, hraws, hkeys, ?_, ?_⟩, ?_, ?_⟩
  · have hperm : ((sort (widen [] (sortByPath sources))).map (·.path)).Perm
        (sources.map (·.path)) := by
      refine ((sort_perm _).map _).trans ?_
      rw [widen_map_path]
      exact (sortByPath_perm sources).map _
    rw [← sources_map_path hsources]
    simpa only [List.map_map, Function.comp_def] using hperm.map Scalar.text
  · intro operation hmem
    obtain ⟨raws', raw, hraws', hraw, hextract⟩ := extract_of_mem_collectMethod h hmem
    cases hraws.symm.trans hraws'
    exact ⟨raw, hraw, hextract⟩
  · intro operation hmem
    simpa only [(sort_perm _).mem_iff] using
      (hselectors operation ((sort_perm _).mem_iff.mp hmem)).1
  · intro operation hmem
    exact (hselectors operation ((sort_perm _).mem_iff.mp hmem)).2

/-- Collected operations are those of the document: none is lost, doubled or changed but for its
selector, and a selector is widened only where that was needed. -/
theorem collect_faithful {collection : Collection} (once : document.keysOnce)
    (h : collect document idCollection = .ok collection) :
    rawOf document .head = .ok [] ∧ rawOf document .patch = .ok [] ∧
    collection.map (·.1) = [.get, .delete, .post, .put] ∧
    ∀ method operations, (method, operations) ∈ collection →
      Faithful document idCollection method operations := by
  obtain ⟨hhead, hpatch, -⟩ := collect_eq_ok.mp h
  refine ⟨hhead, hpatch, collection_methods h, ?_⟩
  intro method operations hmem
  exact faithful_collectMethod once (collectMethod_of_mem h hmem).2

def sampleRaw (id : String) : Document :=
  .object [(.text "operationId", .text id), (.text "responses", .object [
    (.text "200", .object [(.text "description", .text "ok")])])]

def sampleOperation (method : Method) (path : String) (template : PathTemplate)
    (id selector : String) : Operation where
  method := method
  path := path
  template := template
  description := none
  parameters := []
  requiresToken := false
  body := none
  operationId := id
  selector := selector
  okResponse := ⟨.nothing, none, some "ok"⟩
  okResponses := [(200, ⟨.nothing, none, some "ok"⟩)]
  errorResponses := []
  kind := .allocation

def bucketDocument : Document := .object [
  (.text "paths", .object [
    (.text "/allocation/\x7btenant\x7d/bucket", .object [
      (.text "get", sampleRaw "get_bucket"), (.text "delete", sampleRaw "delete_bucket")]),
    (.text "/allocation/\x7btenant\x7d/bucket/\x7bid\x7d", .object [
      (.text "$ref", .text "#/components/pathItems/bucket")])]),
  (.text "components", .object [(.text "pathItems", .object [
    (.text "bucket", .object [(.text "get", sampleRaw "get_bucket_by_id")])])])]

/-- The operations that read buckets. The second one has lost its default selector. -/
def bucketReads : List Operation := [
  sampleOperation .get "/allocation/\x7btenant\x7d/bucket"
    [.literal "allocation", .placeholder "tenant", .literal "bucket"] "get_bucket" "bucket",
  sampleOperation .get "/allocation/\x7btenant\x7d/bucket/\x7bid\x7d"
    [.literal "allocation", .placeholder "tenant", .literal "bucket", .placeholder "id"]
    "get_bucket_by_id" "bucket-id"]

def bucketCollection : Collection := [
  (.get, bucketReads),
  (.delete, [sampleOperation .delete "/allocation/\x7btenant\x7d/bucket"
    [.literal "allocation", .placeholder "tenant", .literal "bucket"] "delete_bucket" "bucket"]),
  (.post, []), (.put, [])]

theorem collect_bucketDocument : collect bucketDocument "ChildList" = .ok bucketCollection := by
  have hreads : collectMethod bucketDocument "ChildList" .get = .ok bucketReads :=
    collectMethod_of_ordered
      (bucketReads.map fun operation => { operation with selector := operation.defaultSelector })
      (by decide +kernel) (by decide +kernel) (by decide +kernel)
  refine collect_of_methods ?_ ?_ hreads ?_ ?_ ?_
  all_goals decide +kernel

theorem collect_faithful_buckets :
    bucketDocument.keysOnce = true ∧
    collect bucketDocument "ChildList" = .ok bucketCollection ∧
    Faithful bucketDocument "ChildList" .get bucketReads := by
  have once : bucketDocument.keysOnce = true := by decide +kernel
  refine ⟨once, collect_bucketDocument, ?_⟩
  exact (collect_faithful once collect_bucketDocument).2.2.2 .get bucketReads
    (by simp [bucketCollection])

end ClientGen.Operation
