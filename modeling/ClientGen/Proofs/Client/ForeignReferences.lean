import ClientGen.Client.Wrapped
import ClientGen.Proofs.Operation.Prepared
import ClientGen.Proofs.Schema.Innermost

/-!
References to no schema of the document. The type of a schema that leads to one is kept in the
operation, but no module is rendered with it.
-/
namespace ClientGen

namespace Operation

open Outcome

variable {document : Document} {idCollection : String} {method : Method} {path : String}
  {raw schema : Document} {operation : Operation} {reference : String}

theorem mem_of_leastResponse? {responses : List (Nat × ResponseType)}
    {response : Nat × ResponseType} (h : leastResponse? responses = some response) :
    response ∈ responses := by
  induction responses with
  | nil => cases h
  | cons first rest ih =>
    rw [leastResponse?] at h
    split at h
    next other hother =>
      split at h
      · cases h
        exact List.mem_cons_of_mem _ (ih hother)
      · cases h
        exact List.mem_cons_self
    · cases h
      exact List.mem_cons_self

theorem leastResponse?_append {before after : List (Nat × ResponseType)}
    {response : Nat × ResponseType} (hbefore : ∀ other ∈ before, response.1 < other.1)
    (hafter : ∀ other ∈ after, response.1 ≤ other.1) :
    leastResponse? (before ++ response :: after) = some response := by
  induction before with
  | nil =>
    rw [List.nil_append, leastResponse?]
    split
    next other hother => rw [if_neg (hafter other (mem_of_leastResponse? hother)).not_gt]
    · rfl
  | cons first before ih =>
    obtain ⟨hfirst, hrest⟩ := List.forall_mem_cons.mp hbefore
    rw [List.cons_append, leastResponse?, ih hrest]
    simp only [hfirst, if_true]

/-- How a response object is read. One without a status is left out. -/
inductive ReadAs (document : Document) (idCollection : String) :
    Scalar × Document → Option (Nat × ResponseType) → Prop
  | without {code : Scalar} {response : Document} (skipped : status? code = .ok none) :
      ReadAs document idCollection (code, response) none
  | typed {code : Scalar} {response resolved : Document} {status : Nat} {type : ResponseType}
      (status_eq : status? code = .ok (some status))
      (resolves : Reference.resolve document response = .ok resolved)
      (type_eq : ResponseType.read resolved idCollection = .ok type) :
      ReadAs document idCollection (code, response) (some (status, type))

theorem readAs_of_responseTypes {types : List (Nat × ResponseType)}
    (h : responseTypes document idCollection raw = .ok types) {members : Members}
    (hmembers : (raw.get "responses").membersOrVoid? = some members) :
    ∃ found, List.Forall₂ (ReadAs document idCollection) members found ∧
      types = found.filterMap id := by
  simp only [responseTypes, hmembers, bind_eq_ok, pure_eq_ok] at h
  obtain ⟨found, hfound, rfl⟩ := h
  refine ⟨found, (mapM_eq_ok.mp hfound).imp ?_, rfl⟩
  rintro ⟨code, response⟩ result hstep
  obtain ⟨status?, hstatus, hstep⟩ := bind_eq_ok.mp hstep
  cases status? with
  | none =>
    cases hstep
    exact .without hstatus
  | some status =>
    simp only [bind_eq_ok, pure_eq_ok] at hstep
    obtain ⟨resolved, hresolved, type, htype, rfl⟩ := hstep
    exact .typed hstatus hresolved htype

/-- A status that is read stands in the code of some response. -/
theorem status_of_mem {members : Members} {found : List (Option (Nat × ResponseType))}
    (h : List.Forall₂ (ReadAs document idCollection) members found)
    {response : Nat × ResponseType}
    (hmem : response ∈ (found.filterMap id).filter fun response => isOk response.1) :
    ∃ entry ∈ members, status? entry.1 = .ok (some response.1) ∧ isOk response.1 = true := by
  obtain ⟨hmem, hok⟩ := List.mem_filter.mp hmem
  obtain ⟨result, hresult, hsome⟩ := List.mem_filterMap.mp hmem
  cases hsome
  obtain ⟨entry, hentry, hread⟩ := exists_left_of_mem h hresult
  cases hread with
  | typed status_eq => exact ⟨_, hentry, status_eq, hok⟩

/-- The canonical response of an operation object: of the responses whose status says that the call
succeeded the first one with the least status. -/
inductive CanonicalResponse (raw response : Document) : Prop
  | intro {before after : Members} {code : Scalar} {status : Nat}
      (members : (raw.get "responses").membersOrVoid? = some (before ++ (code, response) :: after))
      (status_eq : status? code = .ok (some status)) (ok : isOk status = true)
      (first : ∀ entry ∈ before, ∀ other, status? entry.1 = .ok (some other) →
        isOk other = true → status < other)
      (least : ∀ entry ∈ after, ∀ other, status? entry.1 = .ok (some other) →
        isOk other = true → status ≤ other)

theorem read_of_extract (h : extract method path raw document idCollection = .ok operation)
    {response : Document} (canonical : CanonicalResponse raw response) :
    ∃ resolved, Reference.resolve document response = .ok resolved ∧
      ResponseType.read resolved idCollection = .ok operation.okResponse := by
  obtain ⟨types, found, htypes, hleast⟩ := okResponse_of_extract h
  obtain ⟨members, status_eq, ok, first, least⟩ := canonical
  obtain ⟨results, hresults, rfl⟩ := readAs_of_responseTypes htypes members
  obtain ⟨earlier, later, hearlier, hlater, rfl⟩ := forall₂_append_left hresults
  cases hlater with
  | cons hread hlater =>
    cases hread with
    | without hnone => cases hnone.symm.trans status_eq
    | typed hstatus hresolves htype =>
      cases hstatus.symm.trans status_eq
      -- What is read before the canonical response has greater statuses, what is after no less.
      rw [List.filterMap_append, List.filterMap_cons_some (by rfl), List.filter_append,
        List.filter_cons, if_pos ok, leastResponse?_append] at hleast
      · cases hleast
        exact ⟨_, hresolves, htype⟩
      · intro other hmem
        obtain ⟨entry, hentry, hother, hok⟩ := status_of_mem hearlier hmem
        exact first entry hentry _ hother hok
      · intro other hmem
        obtain ⟨entry, hentry, hother, hok⟩ := status_of_mem hlater hmem
        exact least entry hentry _ hother hok

/-- Where an operation object carries a schema of what its calls take and give: in a parameter that
the caller gives, in the JSON of its request body, or in that of its canonical response. -/
inductive Carries (document : Document) (path : String) (raw schema : Document) : Prop
  | parameter {tenant parameter : Document} {rest : List Document}
      (merged : mergedParameters document path raw = .ok (tenant :: rest))
      (mem : parameter ∈ rest) (given : isAuthorization parameter = false)
      (found : parameter.get? "schema" = some schema)
  | body {body : Document}
      (resolved : Reference.resolve document (raw.get "requestBody") = .ok body)
      (json : Content.jsonSchema? body = some schema)
  | response {response resolved : Document} (canonical : CanonicalResponse raw response)
      (resolves : Reference.resolve document response = .ok resolved)
      (json : Content.jsonSchema? resolved = some schema)

theorem parameter_of_extract (h : extract method path raw document idCollection = .ok operation)
    {tenant parameter : Document} {rest : List Document}
    (hmerged : mergedParameters document path raw = .ok (tenant :: rest))
    (hmem : parameter ∈ rest) (given : isAuthorization parameter = false)
    (hfound : parameter.get? "schema" = some schema) :
    ∃ read ∈ operation.parameters,
      Parameter.schemaType schema operation.operationId read.name = .ok read.type := by
  obtain ⟨merged, hmerged', hcaller⟩ := (extracted_of_extract h).parameters_eq
  cases hmerged.symm.trans hmerged'
  obtain ⟨-, hread, -⟩ := callerParameters_cons_eq_ok.mp hcaller
  have hgiven : parameter ∈ rest.filter fun parameter => !isAuthorization parameter :=
    List.mem_filter.mpr ⟨hmem, by simp [given]⟩
  obtain ⟨result, hresult, hread⟩ := exists_mem_of_mapM hread hgiven
  obtain ⟨schema', hschema, htype⟩ := schemaType_of_read hread
  cases hschema.symm.trans hfound
  exact ⟨result, hresult, htype⟩

theorem exists_body_of_extract (h : extract method path raw document idCollection = .ok operation)
    {body : Document} (resolved : Reference.resolve document (raw.get "requestBody") = .ok body)
    (json : Content.jsonSchema? body = some schema) :
    ∃ type, operation.body = some type ∧ BodyType.read body = .ok type := by
  have hbody := body_of_extract h
  unfold bodyType? at hbody
  dsimp only at hbody
  split at hbody
  next hnull =>
    have hvoid : raw.get "requestBody" = .null := by
      unfold Document.isNull at hnull
      split at hnull
      next hnone => exact hnone
      · cases hnull
    rw [hvoid] at resolved
    cases resolved
    cases json
  · simp only [bind_eq_ok, pure_eq_ok] at hbody
    obtain ⟨_, hresolved, type, htype, hsome⟩ := hbody
    cases hresolved.symm.trans resolved
    exact ⟨type, hsome.symm, htype⟩

end Operation

namespace Client

open Operation Outcome

variable {document schema raw : Document} {idCollection : String} {method : Method} {path : String}
  {operation : Operation} {reference : String}

/-- A carried schema that leads to a foreign reference gives the operation a type text that is no
type expression. -/
theorem exists_refused (h : extract method path raw document idCollection = .ok operation)
    (plain : '$' ∉ idCollection.toList) (carries : Carries document path raw schema)
    (leads : LeadsTo schema reference)
    (foreign : Text.startsWith reference Reference.schemaPlace = false) :
    ∃ type ∈ typeTexts operation, TypeExpression.parse? type = none := by
  unfold typeTexts
  cases carries with
  | parameter merged mem given found =>
    obtain ⟨parameter, hparameter, htype⟩ := parameter_of_extract h merged mem given found
    obtain ⟨hkind, hrefused⟩ := Parameter.parse?_of_leadsTo htype leads foreign
    refine ⟨_, List.mem_append_left _ (List.mem_append_left _ (List.mem_map_of_mem ?_)), hrefused⟩
    exact List.mem_filter.mpr ⟨hparameter, by simpa using hkind⟩
  | body resolved json =>
    obtain ⟨body, hbody, hread⟩ := exists_body_of_extract h resolved json
    obtain ⟨hkind, hrefused⟩ := BodyType.parse?_of_leadsTo hread json leads foreign
    exact ⟨_, List.mem_append_left _ (List.mem_append_right _ (by simp [hbody, hkind])), hrefused⟩
  | response canonical resolves json =>
    obtain ⟨resolved, hresolved, hread⟩ := read_of_extract h canonical
    cases hresolved.symm.trans resolves
    obtain ⟨hkind, hrefused⟩ := ResponseType.parse?_of_leadsTo hread json leads foreign plain
    exact ⟨_, List.mem_append_right _ (by simp [hkind]), hrefused⟩

theorem importedTypes_ne_ok {operations : List Operation} (hmem : operation ∈ operations)
    {type : String} (htype : type ∈ typeTexts operation)
    (refused : TypeExpression.parse? type = none) (types : List String) :
    importedTypes operations ≠ .ok types := by
  intro h
  simp only [importedTypes, bind_eq_ok] at h
  obtain ⟨names, hnames, -⟩ := h
  obtain ⟨_, -, hname⟩ := exists_mem_of_mapM hnames (List.mem_flatMap.mpr ⟨operation, hmem, htype⟩)
  simp [typeNames, refused] at hname

/-- No module, generic or wrapped, is rendered with an operation that carries a schema which leads
to a foreign reference, whatever the reference holds. -/
theorem not_rendered_of_foreign
    (h : extract method path raw document idCollection = .ok operation)
    (plain : '$' ∉ idCollection.toList) (carries : Carries document path raw schema)
    (leads : LeadsTo schema reference)
    (foreign : Text.startsWith reference Reference.schemaPlace = false) (selector : String) :
    (∀ (collection : Collection) modules byPath document' text,
      { operation with selector } ∈ collection.operations →
        renderGeneric collection modules byPath document' ≠ .ok text) ∧
    ∀ operations modules document' text, { operation with selector } ∈ operations →
      renderWrapped operations modules document' ≠ .ok text := by
  obtain ⟨type, htype, refused⟩ := exists_refused h plain carries leads foreign
  constructor
  · intro collection modules byPath document' text hmem hrender
    unfold renderGeneric at hrender
    split at hrender
    · simp only [bind_eq_ok] at hrender
      obtain ⟨_, -, _, -, types, htypes, -⟩ := hrender
      exact importedTypes_ne_ok hmem htype refused types htypes
    · cases hrender
  · intro operations modules document' text hmem hrender
    unfold renderWrapped at hrender
    split at hrender
    · simp only [bind_eq_ok] at hrender
      obtain ⟨_, -, types, htypes, -⟩ := hrender
      exact importedTypes_ne_ok hmem htype refused types htypes
    · cases hrender

/-- The schema of a map of lists whose items are schemas of another document. -/
def foreignMap : Document := .object [
  (.text "type", .text "object"),
  (.text "additionalProperties", .object [
    (.text "type", .text "array"),
    (.text "items", .object [(.text "$ref", .text "limits.json#/Limit] # ")])])]

theorem leadsTo_foreignMap : LeadsTo foreignMap "limits.json#/Limit] # " := by
  refine .values (by decide +kernel) (by decide +kernel) rfl ?_
  refine .items (by decide +kernel) (by decide +kernel) rfl ?_
  exact .reference (by decide +kernel)

def foreignResponse : Document := .object [(.text "content", .object [
  (.text "application/json", .object [(.text "schema", foreignMap)])])]

def foreignRaw : Document := .object [
  (.text "operationId", .text "get_limit"),
  (.text "responses", .object [(.text "200", foreignResponse)])]

def foreignDocument : Document := .object [
  (.text "paths", .object [
    (.text "/allocation/\x7btenant\x7d/limit", .object [(.text "get", foreignRaw)])])]

def foreignRead : Operation :=
  value (extract .get "/allocation/\x7btenant\x7d/limit" foreignRaw foreignDocument "ChildList")
    (by decide +kernel)

theorem extract_foreignRaw :
    extract .get "/allocation/\x7btenant\x7d/limit" foreignRaw foreignDocument "ChildList" =
      .ok foreignRead :=
  eq_ok_value _ _

theorem not_rendered_of_foreign_limits :
    foreignRead.okResponse.expression = "dict[str, list[$ref: limits.json#/Limit] # ]]" ∧
    (∀ modules byPath text,
      renderGeneric [(.get, [foreignRead])] modules byPath foreignDocument ≠ .ok text) ∧
    ∀ modules text, renderWrapped [foreignRead] modules foreignDocument ≠ .ok text := by
  have hcanonical : CanonicalResponse foreignRaw foreignResponse := by
    refine .intro (show _ = some ([] ++ (Scalar.text "200", foreignResponse) :: []) from rfl)
      (show status? (.text "200") = .ok (some 200) by decide +kernel) (by decide) ?_ ?_
    all_goals simp
  have hcarries :
      Carries foreignDocument "/allocation/\x7btenant\x7d/limit" foreignRaw foreignMap :=
    .response hcanonical rfl rfl
  obtain ⟨hgeneric, hwrapped⟩ := not_rendered_of_foreign extract_foreignRaw (by decide) hcarries
    leadsTo_foreignMap (by decide +kernel) foreignRead.selector
  refine ⟨by decide +kernel, fun modules byPath text => ?_, fun modules text => ?_⟩
  · exact hgeneric _ modules byPath foreignDocument text (by simp [Collection.operations])
  · exact hwrapped _ modules foreignDocument text (by simp)

end Client

end ClientGen
