import ClientGen.Proofs.Client.ForeignReferences
import ClientGen.Proofs.Document.Chain

/-!
Responses that stay references. A chain of references can end at an object that is still a
reference, to a schema or with a `$ref` that is no text. Extraction does not refuse such a response:
it reads the object as though the `$ref` were not there, and without content the operation gets a
response with no body.
-/
namespace ClientGen

variable {document value : Document} {idCollection : String}

theorem Members.get?_eraseKey_same {α : Type} (members : List (Scalar × α)) (name : String) :
    get? (eraseKey members (.text name)) name = none := by
  unfold get? find? eraseKey
  simp

theorem Members.get?_eraseKey_of_ne {α : Type} (members : List (Scalar × α)) {name other : String}
    (different : name ≠ other) :
    get? (eraseKey members (.text name)) other = get? members other := by
  unfold get? find? eraseKey
  rw [List.find?_filter]
  congr 2
  funext member
  by_cases h : member.1.same (.text name) = true
  · have named : member.1.canonical = .text name := by simpa [Scalar.same] using h
    have apart : member.1.same (.text other) = false := by simp [Scalar.same, named, different]
    simp [apart]
  · simp [h]

namespace Reference

open Document

/-- A value at which following ends although it is a reference: to a schema, or with a `$ref` that
is no text. -/
inductive Stays (value : Document) : Prop
  | schema {reference : String} (found : value.get? "$ref" = some (.text reference))
      (place : Text.startsWith reference schemaPlace = true)
  | noText {other : Document} (found : value.get? "$ref" = some other) (kind : other.text? = none)

theorem stays_iff_of_settled (settled : Settled value) :
    Stays value ↔ value.get? "$ref" ≠ none := by
  constructor
  · rintro (⟨found, -⟩ | ⟨found, -⟩) <;> simp [found]
  · intro kept
    cases settled with
    | noObject kind => exact absurd (get?_of_not_isObject kind "$ref") kept
    | noReference absent => exact absurd absent kept
    | noText found kind => exact .noText found kind
    | schema found place => exact .schema found place

theorem Stays.settled (stays : Stays value) : Settled value := by
  cases stays with
  | schema found place => exact .schema found place
  | noText found kind => exact .noText found kind

/-- Resolving gives no reference exactly where the chain of references ends at none that stays. -/
theorem get?_ref_eq_none_iff {target : Document} (h : resolve document value = .ok target) :
    target.get? "$ref" = none ↔ ∀ last, Reaches document value last → ¬ Stays last := by
  have hends := ends_resolve document value
  rw [h] at hends
  cases hends with
  | settled reaches settled =>
    have hstays := stays_iff_of_settled settled
    constructor
    · intro hnone last hlast stays
      have hsame : last = target :=
        eq_of_reaches hlast reaches (fun _ => stays.settled.not_leads) fun _ => settled.not_leads
      exact hstays.mp (hsame ▸ stays) hnone
    · intro hends
      by_contra hkept
      exact hends target reaches (hstays.mpr hkept)

/-- A value without its reference. -/
def without (value : Document) : Document :=
  match value.untie with
  | .object members => .object (Members.eraseKey members (.text "$ref"))
  | _ => value

theorem isObject_without (value : Document) : (without value).isObject = value.isObject := by
  unfold without
  split
  next members hmembers => simp [isObject, hmembers]
  · rfl

theorem get?_ref_without (value : Document) : (without value).get? "$ref" = none := by
  unfold without
  split
  next members hmembers => exact Members.get?_eraseKey_same members "$ref"
  next hother =>
    refine get?_of_not_isObject ?_ "$ref"
    rw [← Bool.not_eq_true, isObject_iff]
    rintro ⟨members, hmembers⟩
    exact hother members hmembers

theorem get_without (value : Document) {name : String} (hname : name ≠ "$ref") :
    (without value).get name = value.get name := by
  unfold without
  split
  next members hmembers =>
    simp only [Document.get, Document.get?, untie_object, hmembers]
    rw [Members.get?_eraseKey_of_ne members hname.symm]
  · rfl

theorem resolve_without (document value : Document) :
    resolve document (without value) = .ok (without value) := by
  have hnext : next? (without value) = none := by simp [next?, get?_ref_without]
  simp [resolve, hnext]

end Reference

/-- Whether a body object offers neither JSON nor plain text. -/
def Content.Absent (body : Document) : Prop :=
  (body.get "content").isVoid = true ∨
    (body.get "content").mentions? jsonType = some false ∧
      (body.get "content").mentions? textType ≠ some true

theorem Content.of_congr {body body' : Document} (hobject : body'.isObject = body.isObject)
    (hcontent : body'.get "content" = body.get "content") : Content.of body' = Content.of body := by
  simp only [Content.of, hobject, hcontent]

theorem Content.absent_iff {body : Document} {content : Content}
    (h : Content.of body = .ok content) :
    Absent body ↔ ∃ offered, content = .other offered := by
  unfold Absent
  unfold Content.of at h
  split at h
  · cases h
  dsimp only at h
  split at h
  next hvoid =>
    cases h
    simp [hvoid]
  next hvoid =>
    split at h
    · cases h
    next hjson =>
      split at h
      next media _ =>
        simp only [Outcome.bind_eq_ok, Outcome.pure_eq_ok] at h
        obtain ⟨schema, -, rfl⟩ := h
        simp [hvoid, hjson]
      · cases h
    next hjson =>
      split at h
      next htext =>
        cases h
        simp_all
      next htext =>
        cases h
        simp_all

namespace ResponseType

theorem read_congr {response response' : Document}
    (hobject : response'.isObject = response.isObject)
    (hcontent : response'.get "content" = response.get "content")
    (hdescription : response'.get "description" = response.get "description") :
    read response' idCollection = read response idCollection := by
  simp only [read, Content.of_congr hobject hcontent, hdescription]

theorem ofSchema_kind_ne_nothing {schema : Document} {type : ResponseType}
    (h : ofSchema schema idCollection = .ok type) : type.kind ≠ .nothing := by
  unfold ofSchema at h
  split at h
  · dsimp only at h
    split_ifs at h <;> cases h <;> simp
  · cases h
  · split at h
    · cases h
      simp
    · obtain ⟨shape, -, rfl⟩ := Outcome.map_eq_ok.mp h
      simp
    · split at h
      · split_ifs at h
        obtain ⟨shape, -, rfl⟩ := Outcome.map_eq_ok.mp h
        simp
      · cases h
    · cases h

/-- A response has no body exactly if it offers neither JSON nor plain text. -/
theorem kind_eq_nothing_iff {response : Document} {type : ResponseType}
    (h : read response idCollection = .ok type) :
    type.kind = .nothing ↔ Content.Absent response := by
  simp only [read, Outcome.bind_eq_ok] at h
  obtain ⟨content, hcontent, h⟩ := h
  rw [Content.absent_iff hcontent]
  cases content with
  | json schema =>
    cases schema with
    | none => cases h
    | some schema => simpa using ofSchema_kind_ne_nothing h
  | plain =>
    cases h
    simp
  | other offered =>
    have hnothing : type.kind = .nothing := by
      dsimp only at h
      split at h
      · cases h
        rfl
      · split at h
        · cases h
          rfl
        · split at h <;> cases h
          rfl
        · cases h
    simp [hnothing]

theorem read_without (response : Document) :
    read (Reference.without response) idCollection = read response idCollection :=
  read_congr (Reference.isObject_without response) (Reference.get_without response (by decide))
    (Reference.get_without response (by decide))

end ResponseType

namespace Operation

open Outcome

variable {method : Method} {path : String} {raw raw' : Document} {operation : Operation}

/-- A response as it is read: what it stands for, without a reference. One whose chain of references
has no end or leads nowhere is as it was. -/
def bare (document response : Document) : Document :=
  match Reference.resolve document response with
  | .ok target => Reference.without target
  | .error _ => response

/-- An operation object with each response as it is read. -/
def bareResponses (document raw : Document) : Document :=
  match raw.untie, (raw.get "responses").membersOrVoid? with
  | .object members, some responses =>
    .object (Members.put members "responses"
      (.object (responses.map fun member => (member.1, bare document member.2))))
  | _, _ => raw

theorem read_bare (document response : Document) :
    (Reference.resolve document (bare document response) >>= fun target =>
      ResponseType.read target idCollection) =
        Reference.resolve document response >>= fun target =>
          ResponseType.read target idCollection := by
  unfold bare
  cases hresolve : Reference.resolve document response with
  | error failure => simp only [hresolve]
  | ok target =>
    rw [Reference.resolve_without]
    exact ResponseType.read_without target

theorem get?_ref_of_bare {response target : Document}
    (h : Reference.resolve document (bare document response) = .ok target) :
    target.get? "$ref" = none := by
  unfold bare at h
  cases hresolve : Reference.resolve document response with
  | error failure => simp [hresolve] at h
  | ok resolved =>
    rw [hresolve, Reference.resolve_without] at h
    cases h
    exact Reference.get?_ref_without resolved

theorem extract_congr (hobject : raw'.isObject = raw.isObject)
    (hget : ∀ name, name ≠ "responses" → raw'.get name = raw.get name)
    (hresponses : responseTypes document idCollection raw' =
      responseTypes document idCollection raw) :
    extract method path raw' document idCollection =
      extract method path raw document idCollection := by
  have hid := hget "operationId" (by decide)
  have hparameters := hget "parameters" (by decide)
  have hbody := hget "requestBody" (by decide)
  have hsummary := hget "summary" (by decide)
  simp only [extract, idOf?, mergedParameters, parameterObjects, bodyType?, summary?, hobject, hid,
    hparameters, hbody, hsummary, hresponses]

/-- An operation is extracted as though no response stayed a reference. -/
theorem extract_bareResponses (method : Method) (path : String) (raw document : Document)
    (idCollection : String) :
    extract method path (bareResponses document raw) document idCollection =
      extract method path raw document idCollection := by
  unfold bareResponses
  split
  next members responses hmembers hresponses =>
    -- the two operation objects differ in their responses alone, and those are read alike
    apply extract_congr
    · simp [Document.isObject, hmembers]
    · intro name hname
      simp only [Document.get, Document.get?, Document.untie_object, hmembers]
      rw [Members.get?_put_of_ne _ _ hname.symm]
    · have hput : (Document.object (Members.put members "responses" (.object
          (responses.map fun member => (member.1, bare document member.2))))).get "responses" =
            .object (responses.map fun member => (member.1, bare document member.2)) := by
        simp [Document.get, Members.get?_put_same]
      unfold responseTypes
      rw [hput, hresponses]
      simp only [Document.membersOrVoid?, Document.untie_object, List.mapM_map]
      refine congrArg (· >>= _) (mapM_congr fun member _ => ?_)
      refine bind_congr fun status => ?_
      cases status with
      | none => rfl
      | some status =>
        change (Reference.resolve document (bare document member.2) >>= fun target =>
          ResponseType.read target idCollection >>= _) = _
        rw [← bind_assoc, read_bare, bind_assoc]
  · rfl

theorem responses_of_extract (h : extract method path raw document idCollection = .ok operation) :
    ∃ types, responseTypes document idCollection raw = .ok types ∧
      operation.okResponses = (types.filter fun response => isOk response.1) ∧
      operation.errorResponses = types.filter fun response => !isOk response.1 := by
  unfold extract at h
  split at h
  · cases h
  · split at h
    · cases h
    · simp only [bind_eq_ok] at h
      obtain ⟨_, -, _, -, _, -, ⟨_, _⟩, -, _, -, types, htypes, h⟩ := h
      split at h
      · cases h
      · cases h
        exact ⟨types, htypes, rfl, rfl⟩

theorem mem_responses_of_extract
    (h : extract method path raw document idCollection = .ok operation) {responses : Members}
    (hresponses : (raw.get "responses").membersOrVoid? = some responses) {code : Scalar}
    {response : Document} (hmem : (code, response) ∈ responses)
    (hdigits : Text.isDigits code.display = true) :
    ∃ status target type, status? code = .ok (some status) ∧
      Reference.resolve document response = .ok target ∧
      ResponseType.read target idCollection = .ok type ∧
      (status, type) ∈ if isOk status then operation.okResponses else operation.errorResponses := by
  obtain ⟨types, htypes, hok, herror⟩ := responses_of_extract h
  obtain ⟨found, hfound, rfl⟩ := readAs_of_responseTypes htypes hresponses
  obtain ⟨result, hresult, hread⟩ := exists_right_of_mem hfound hmem
  cases hread with
  | without skipped =>
    unfold status? at skipped
    rw [if_pos hdigits] at skipped
    split at skipped <;> cases skipped
  | @typed _ _ target status type hstatus hresolves htype =>
    -- what is read stands among all types, and the status decides for which of the two lists
    have hlisted : (status, type) ∈ found.filterMap id := List.mem_filterMap.mpr ⟨_, hresult, rfl⟩
    refine ⟨status, target, type, hstatus, hresolves, htype, ?_⟩
    split
    next hsucceeds => exact hok ▸ List.mem_filter.mpr ⟨hlisted, hsucceeds⟩
    next hfails => exact herror ▸ List.mem_filter.mpr ⟨hlisted, by simpa using hfails⟩

/-- Extraction does not see whether a response stays a reference: it gives the same for the
operation whose responses have no reference left. In an extracted operation what a response stands
for is a reference exactly if the chain from the response ends at one that stays. The response then
has the type that is read without the `$ref`, which is no body unless there is content as well. -/
theorem extract_reads_past_references (method : Method) (path : String) (raw document : Document)
    (idCollection : String) :
    extract method path (bareResponses document raw) document idCollection =
        extract method path raw document idCollection ∧
      (∀ response target, Reference.resolve document (bare document response) = .ok target →
        target.get? "$ref" = none) ∧
      ∀ operation, extract method path raw document idCollection = .ok operation →
        ∃ responses, (raw.get "responses").membersOrVoid? = some responses ∧
          ∀ code response, (code, response) ∈ responses → Text.isDigits code.display = true →
            ∃ status target type, status? code = .ok (some status) ∧
              Reference.resolve document response = .ok target ∧
              ((status, type) ∈
                if isOk status then operation.okResponses else operation.errorResponses) ∧
              (target.get? "$ref" = none ↔
                ∀ last, Reference.Reaches document response last → ¬ Reference.Stays last) ∧
              ResponseType.read (Reference.without target) idCollection = .ok type ∧
              (type.kind = .nothing ↔ Content.Absent target) := by
  refine ⟨extract_bareResponses method path raw document idCollection,
    fun _ _ => get?_ref_of_bare, fun operation h => ?_⟩
  obtain ⟨types, htypes, -⟩ := responses_of_extract h
  cases hresponses : (raw.get "responses").membersOrVoid? with
  | none => simp [responseTypes, hresponses] at htypes
  | some responses =>
    refine ⟨responses, rfl, fun code response hmem hdigits => ?_⟩
    obtain ⟨status, target, type, hstatus, hresolves, htype, hlisted⟩ :=
      mem_responses_of_extract h hresponses hmem hdigits
    exact ⟨status, target, type, hstatus, hresolves, hlisted,
      Reference.get?_ref_eq_none_iff hresolves, (ResponseType.read_without target).trans htype,
      ResponseType.kind_eq_nothing_iff htype⟩

def referringRaw : Document := .object [
  (.text "operationId", .text "get_bucket"),
  (.text "parameters", .array [pathParameter "tenant"]),
  (.text "responses", .object [
    (.text "200", .object [(.text "$ref", .text "#/components/schemas/Bucket")]),
    (.text "404", .object [(.text "$ref", .text "#/components/responses/Missing")])])]

def responseDocument : Document := .object [
  (.text "paths", .object [
    (.text "/allocation/\x7btenant\x7d/bucket", .object [(.text "get", referringRaw)])]),
  (.text "components", .object [
    (.text "schemas", .object [(.text "Bucket", .object [(.text "type", .text "string")])]),
    (.text "responses", .object [
      (.text "Missing", .object [(.text "description", .text "no such bucket")])])])]

/-- The operation as it is extracted: the reference to a schema counts as a response with neither
body nor description. -/
def bodilessRead : Operation :=
  { sampleOperation .get "/allocation/\x7btenant\x7d/bucket"
      [.literal "allocation", .placeholder "tenant", .literal "bucket"] "get_bucket" "bucket" with
    okResponse := ⟨.nothing, none, some ""⟩
    okResponses := [(200, ⟨.nothing, none, some ""⟩)]
    errorResponses := [(404, ⟨.nothing, none, some "no such bucket"⟩)] }

theorem extract_referringRaw : extract .get "/allocation/\x7btenant\x7d/bucket" referringRaw
    responseDocument "ChildList" = .ok bodilessRead := by
  decide +kernel

theorem extract_reads_past_references_missing :
    extract .get "/allocation/\x7btenant\x7d/bucket" referringRaw responseDocument "ChildList" =
      .ok bodilessRead ∧
    ∃ status target type, status? (.text "404") = .ok (some status) ∧
      Reference.resolve responseDocument
        (.object [(.text "$ref", .text "#/components/responses/Missing")]) = .ok target ∧
      ((status, type) ∈
        if isOk status then bodilessRead.okResponses else bodilessRead.errorResponses) ∧
      (target.get? "$ref" = none ↔ ∀ last, Reference.Reaches responseDocument
        (.object [(.text "$ref", .text "#/components/responses/Missing")]) last →
          ¬ Reference.Stays last) ∧
      ResponseType.read (Reference.without target) "ChildList" = .ok type ∧
      (type.kind = .nothing ↔ Content.Absent target) := by
  obtain ⟨responses, hresponses, hread⟩ := (extract_reads_past_references .get
    "/allocation/\x7btenant\x7d/bucket" referringRaw responseDocument "ChildList").2.2 bodilessRead
      extract_referringRaw
  cases hresponses
  exact ⟨extract_referringRaw, hread _ _ (by simp) (by decide +kernel)⟩

/-- The response of a successful call stays a reference to a schema, and the operation is extracted
as one that returns nothing. -/
theorem extracted_with_reference_left :
    extract .get "/allocation/\x7btenant\x7d/bucket" referringRaw responseDocument "ChildList" =
      .ok bodilessRead ∧
    (referringRaw.get "responses").get? "200" =
      some (.object [(.text "$ref", .text "#/components/schemas/Bucket")]) ∧
    Text.isDigits "200" = true ∧
    Reference.resolve responseDocument
        (.object [(.text "$ref", .text "#/components/schemas/Bucket")]) =
      .ok (.object [(.text "$ref", .text "#/components/schemas/Bucket")]) ∧
    bodilessRead.okResponse.kind = .nothing := by
  refine ⟨extract_referringRaw, ?_, ?_, ?_, rfl⟩
  all_goals decide +kernel

end Operation

end ClientGen
