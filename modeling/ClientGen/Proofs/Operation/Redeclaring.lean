import ClientGen.Proofs.Operation.Prepared

/-!
Parameters of a path item that an operation declares again. Such a parameter leaves its place among
the inherited ones and stands where the operation has it, so it may lose the place of the tenant.
When the operation is read as if it did not declare the parameter again is stated exactly.
-/
namespace ClientGen.Operation

open Outcome

variable {document document' operation operation' parameter : Document} {method : Method}
  {path idCollection : String}

/-- What tells a parameter apart, for a parameter that has it. -/
def keyOf? (parameter : Document) : Option (Scalar × Scalar) := (parameterKey parameter).toOption

/-- The inherited parameters that are not declared by others. -/
def undeclared (own inherited : List Document) : List Document :=
  inherited.filter fun parameter => !(own.map keyOf?).contains (keyOf? parameter)

/-- The parameters that a holder of parameters lists, with references not followed. -/
def listed? (holder : Document) : Option (List Document) :=
  if (holder.get "parameters").isVoid then some [] else (holder.get "parameters").elements?

/-- The parameters of the path item of a path. -/
def inheritedParameters (document : Document) (path : String) : Except Failure (List Document) := do
  let item ← pathItem document path
  if item.isObject then parameterObjects document item else .error .unusable

/-! What the merged parameters are. -/

theorem parameterObjects_eq (holder : Document) : parameterObjects document holder =
    match listed? holder with
    | some elements => elements.mapM (resolveParameter document)
    | none => .error .unusable := by
  cases hvoid : (holder.get "parameters").isVoid <;>
    simp only [parameterObjects, listed?, hvoid] <;> rfl

theorem resolveParameter_eq {value : Document}
    (h : Reference.resolve document' value = Reference.resolve document value) :
    resolveParameter document' value = resolveParameter document value := by
  rw [resolveParameter, resolveParameter, h]

theorem parameterKey_eq_ok {key : Scalar × Scalar} :
    parameterKey parameter = .ok key ↔ keyOf? parameter = some key := by
  unfold keyOf?
  cases parameterKey parameter <;> simp [Except.toOption]

theorem keys_of_mapM {parameters : List Document} {keys : List (Scalar × Scalar)}
    (h : parameters.mapM parameterKey = .ok keys) : parameters.map keyOf? = keys.map some := by
  rw [mapM_eq_ok] at h
  induction h with
  | nil => rfl
  | cons hkey _ ih => simp [parameterKey_eq_ok.mp hkey, ih]

/-- Filtering the inherited parameters by their keys leaves those that are not declared. -/
theorem undeclared_eq_filter {own inherited : List Document} {declared : List (Scalar × Scalar)}
    {keyed : List ((Scalar × Scalar) × Document)} (hdeclared : own.mapM parameterKey = .ok declared)
    (hkeyed : inherited.mapM (fun parameter => return (← parameterKey parameter, parameter)) =
      .ok keyed) :
    (keyed.filter fun pair => !declared.contains pair.1).map (·.2) = undeclared own inherited := by
  rw [mapM_eq_ok] at hkeyed
  unfold undeclared
  rw [keys_of_mapM hdeclared]
  induction hkeyed with
  | nil => rfl
  | @cons parameter pair inherited keyed hpair _ ih =>
    simp only [bind_eq_ok, pure_eq_ok] at hpair
    obtain ⟨key, hkey, rfl⟩ := hpair
    simp only [List.filter_cons, parameterKey_eq_ok.mp hkey, ← ih]
    cases hdeclares : declared.contains key <;> simp_all

theorem exists_keys_iff {parameters : List Document} :
    (∃ keys, parameters.mapM parameterKey = .ok keys) ↔
      ∀ parameter ∈ parameters, (keyOf? parameter).isSome = true := by
  simp only [exists_mapM_iff, parameterKey_eq_ok, Option.isSome_iff_exists]

theorem exists_keyed_iff {parameters : List Document} :
    (∃ keyed, parameters.mapM (fun parameter => return (← parameterKey parameter, parameter)) =
      .ok keyed) ↔ ∀ parameter ∈ parameters, (keyOf? parameter).isSome = true := by
  simp only [exists_mapM_iff, bind_eq_ok, pure_eq_ok, parameterKey_eq_ok,
    Option.isSome_iff_exists]
  simp

theorem mergedParameters_eq_ok {merged : List Document} :
    mergedParameters document path operation = .ok merged ↔ ∃ inherited own,
      inheritedParameters document path = .ok inherited ∧
      parameterObjects document operation = .ok own ∧
      (∀ parameter ∈ inherited ++ own, (keyOf? parameter).isSome = true) ∧
      merged = undeclared own inherited ++ own := by
  unfold mergedParameters inheritedParameters
  constructor
  · intro h
    obtain ⟨item, hitem, h⟩ := bind_eq_ok.mp h
    split at h
    · cases h
    next hobject =>
      simp only [bind_eq_ok, pure_eq_ok] at h
      obtain ⟨inherited, hinherited, own, hown, declared, hdeclared, keyed, hkeyed, rfl⟩ := h
      rw [undeclared_eq_filter hdeclared hkeyed]
      refine ⟨inherited, own, ?_, hown, ?_, rfl⟩
      · rw [bind_eq_ok]
        exact ⟨item, hitem, by rwa [if_pos (by simpa using hobject)]⟩
      · exact List.forall_mem_append.mpr
          ⟨exists_keyed_iff.mp ⟨keyed, hkeyed⟩, exists_keys_iff.mp ⟨declared, hdeclared⟩⟩
  · rintro ⟨inherited, own, hinherited, hown, hkeys, rfl⟩
    obtain ⟨item, hitem, hinherited⟩ := bind_eq_ok.mp hinherited
    obtain ⟨hkeyed, hdeclared⟩ := List.forall_mem_append.mp hkeys
    obtain ⟨keyed, hkeyed⟩ := exists_keyed_iff.mpr hkeyed
    obtain ⟨declared, hdeclared⟩ := exists_keys_iff.mpr hdeclared
    split at hinherited
    next hobject =>
      refine bind_eq_ok.mpr ⟨item, hitem, ?_⟩
      simp only [hobject, Bool.not_true, Bool.false_eq_true, if_false, bind_eq_ok, pure_eq_ok]
      exact ⟨inherited, hinherited, own, hown, declared, hdeclared, keyed, hkeyed,
        by rw [undeclared_eq_filter hdeclared hkeyed]⟩
    · cases hinherited

variable {before behind first last : List Document}

theorem undeclared_append (own : List Document) :
    undeclared own (before ++ behind) = undeclared own before ++ undeclared own behind :=
  List.filter_append ..

/-- An inherited parameter that is declared again loses its place. -/
theorem undeclared_again
    (unique : ∀ other ∈ before ++ behind, keyOf? other ≠ keyOf? parameter) :
    undeclared (first ++ parameter :: last) (before ++ parameter :: behind) =
      undeclared (first ++ last) before ++ undeclared (first ++ last) behind := by
  have hother : ∀ {others : List Document}, (∀ other ∈ others, keyOf? other ≠ keyOf? parameter) →
      undeclared (first ++ parameter :: last) others = undeclared (first ++ last) others := by
    intro others hothers
    refine List.filter_congr fun other hmem => ?_
    simp [hothers other hmem]
  obtain ⟨hbefore, hbehind⟩ := List.forall_mem_append.mp unique
  have hself : undeclared (first ++ parameter :: last) [parameter] = [] := by simp [undeclared]
  rw [List.append_cons before, undeclared_append, undeclared_append, hself, hother hbefore,
    hother hbehind, List.append_nil]

/-- One that is not declared again keeps its place. -/
theorem undeclared_once
    (unique : ∀ other ∈ first ++ last, keyOf? other ≠ keyOf? parameter) :
    undeclared (first ++ last) (before ++ parameter :: behind) =
      undeclared (first ++ last) before ++ parameter :: undeclared (first ++ last) behind := by
  have hself : undeclared (first ++ last) [parameter] = [parameter] := by
    obtain ⟨hfirst, hlast⟩ := List.forall_mem_append.mp unique
    simpa [undeclared] using ⟨hfirst, hlast⟩
  rw [List.append_cons before, undeclared_append, undeclared_append, hself, List.append_assoc,
    List.singleton_append]

/-! Which parameters the caller gives when one of them is moved. -/

/-- A walk that reads one element less at the front and another one further behind gives the same
exactly if all elements between are read alike. -/
theorem mapM_moved {ε α β : Type} {f : α → Except ε β} {a b : α} {as bs cs : List α} {ds : List β}
    (h : (as ++ a :: (bs ++ cs)).mapM f = .ok ds) :
    (as ++ (bs ++ b :: cs)).mapM f = .ok ds ↔ ∀ c ∈ a :: bs, f c = f b := by
  simp only [mapM_eq_ok] at h ⊢
  induction as generalizing ds with
  | cons x as ih =>
    -- what stands before the moved element is read in the same place by both walks
    obtain ⟨d, ds, hx, hrest, rfl⟩ := List.forall₂_cons_left_iff.mp h
    simp [hx, ih hrest]
  | nil =>
    simp only [List.nil_append] at h ⊢
    -- every element between takes the place of the one before it
    induction bs generalizing a ds with
    | nil =>
      obtain ⟨d, ds, ha, hrest, rfl⟩ := List.forall₂_cons_left_iff.mp h
      rw [List.nil_append] at hrest
      simp [ha, hrest, eq_comm]
    | cons x bs ih =>
      obtain ⟨d, ds, ha, hrest, rfl⟩ := List.forall₂_cons_left_iff.mp h
      rw [List.cons_append, List.forall₂_cons, ih hrest, List.forall_mem_cons (a := a)]
      refine and_congr_left fun hsame => ?_
      rw [ha, hsame x List.mem_cons_self, eq_comm]

/-- What moving a parameter back does to what the caller gives, when the tenant stays. -/
theorem given_moved {between after : List Document} {operationId : String}
    {parameters : List Parameter} {moved : Document}
    (h : given (before ++ moved :: (between ++ after)) operationId = .ok parameters)
    (hmoved : isAuthorization moved = false) (hparameter : isAuthorization parameter = false) :
    given (before ++ (between ++ parameter :: after)) operationId = .ok parameters ↔
      ∀ other ∈ moved :: between, isAuthorization other = false →
        Parameter.read other operationId = Parameter.read parameter operationId := by
  simp only [given, List.filter_append, List.filter_cons, hmoved, hparameter, Bool.not_false,
    if_true] at h ⊢
  rw [mapM_moved h]
  simp [hmoved]

/-- Moving a parameter back behind others gives the caller the same if it is the authorization
header, or if the others are read alike and the tenant is no authorization header then. -/
theorem callerParameters_moved {front between after : List Document} {operationId : String}
    {parameters : List Parameter} {token : Bool}
    (h : callerParameters (front ++ parameter :: (between ++ after)) operationId method path =
      .ok (parameters, token)) :
    callerParameters (front ++ (between ++ parameter :: after)) operationId method path =
        .ok (parameters, token) ↔
      isAuthorization parameter = true ∨
        (∀ other ∈ between, isAuthorization other = false →
          Parameter.read other operationId = Parameter.read parameter operationId) ∧
        (front = [] → ∀ other ∈ between.head?, isAuthorization other = false) := by
  cases front with
  | cons tenant front =>
    -- the tenant stays, so only what the caller gives can change
    simp only [List.cons_append, callerParameters_cons_eq_ok] at h ⊢
    obtain ⟨htenant, hgiven, rfl⟩ := h
    cases hparameter : isAuthorization parameter with
    | true => simpa [htenant, given, hparameter] using hgiven
    | false =>
      rw [given_moved hgiven hparameter hparameter]
      simp [htenant, hparameter]
  | nil =>
    -- the parameter was the tenant, and whatever stands next takes its place
    simp only [List.nil_append, callerParameters_cons_eq_ok] at h
    obtain ⟨hparameter, hgiven, rfl⟩ := h
    cases between with
    | nil => simpa [callerParameters_cons_eq_ok, hparameter] using hgiven
    | cons tenant between =>
      simp only [List.nil_append, List.cons_append, callerParameters_cons_eq_ok]
      cases htenant : isAuthorization tenant with
      | true => simp [hparameter, htenant]
      | false =>
        have hfront : given ([] ++ tenant :: (between ++ after)) operationId = .ok parameters :=
          hgiven
        have hmoved := given_moved hfront htenant hparameter
        rw [List.nil_append] at hmoved
        rw [hmoved]
        simp [hparameter, htenant]

/-! When the operation is read alike. -/

/-- What the reading of an operation may follow references from, besides its parameters. -/
def consulted (operation : Document) : List Document :=
  operation.get "requestBody" ::
    ((operation.get "responses").membersOrVoid?.getD []).map fun response => response.2

/-- An operation object of a document, and what both are without one of the parameters that the
operation lists. All else that the operation is read from is the same. -/
structure Withdrawn (document operation document' operation' : Document) (path : String)
    (before : List Document) (parameter : Document) (after : List Document) : Prop where
  isObject : operation.isObject = true
  listed : listed? operation = some (before ++ parameter :: after)
  fewer : listed? operation' = some (before ++ after)
  others : ∀ name, name ≠ "parameters" → operation'.get? name = operation.get? name
  targets : ∀ value ∈ before ++ after ++ consulted operation,
    Reference.resolve document' value = Reference.resolve document value
  item : ∃ item item', pathItem document path = .ok item ∧ pathItem document' path = .ok item' ∧
    item'.isObject = item.isObject ∧ listed? item' = listed? item ∧
    ∀ value ∈ (listed? item).getD [],
      Reference.resolve document' value = Reference.resolve document value

namespace Withdrawn

variable {after : List Document} {withdrawn : Document}
  (h : Withdrawn document operation document' operation' path before withdrawn after)

include h

theorem get_eq {name : String} (hname : name ≠ "parameters") :
    operation'.get name = operation.get name := by
  rw [Document.get, Document.get, h.others name hname]

theorem idOf?_eq : idOf? operation' = idOf? operation := by
  rw [idOf?, idOf?, h.get_eq (by decide)]

theorem summary?_eq : summary? operation' = summary? operation := by
  rw [summary?, summary?, h.get_eq (by decide)]

theorem bodyType?_eq : bodyType? document' operation' = bodyType? document operation := by
  rw [bodyType?, bodyType?, h.get_eq (by decide), h.targets (operation.get "requestBody")]
  simp [consulted]

theorem responseTypes_eq : responseTypes document' idCollection operation' =
    responseTypes document idCollection operation := by
  unfold responseTypes
  rw [h.get_eq (by decide)]
  cases hresponses : (operation.get "responses").membersOrVoid? with
  | none => rfl
  | some responses =>
    dsimp only
    refine congrArg (· >>= _) (mapM_congr fun response hmem => ?_)
    rw [h.targets response.2]
    have hconsulted : response.2 ∈ consulted operation := by
      rw [consulted, hresponses]
      exact List.mem_cons_of_mem _ (List.mem_map_of_mem hmem)
    exact List.mem_append_right _ hconsulted

theorem inheritedParameters_eq :
    inheritedParameters document' path = inheritedParameters document path := by
  obtain ⟨item, item', hitem, hitem', hobject, hlisted, htargets⟩ := h.item
  have hobjects : parameterObjects document' item' = parameterObjects document item := by
    rw [parameterObjects_eq, parameterObjects_eq, hlisted]
    cases hitems : listed? item with
    | none => rfl
    | some elements =>
      rw [hitems, Option.getD_some] at htargets
      exact mapM_congr fun value hmem => resolveParameter_eq (htargets value hmem)
  unfold inheritedParameters
  rw [hitem, hitem']
  change (if item'.isObject = true then _ else _) = if item.isObject = true then _ else _
  rw [hobject, hobjects]

theorem parameterObjects_withdrawn
    (hbefore : before.mapM (resolveParameter document) = .ok first)
    (hafter : after.mapM (resolveParameter document) = .ok last) :
    parameterObjects document' operation' = .ok (first ++ last) := by
  rw [parameterObjects_eq, h.fewer]
  have hsame : (before ++ after).mapM (resolveParameter document') =
      (before ++ after).mapM (resolveParameter document) :=
    mapM_congr fun value hmem => resolveParameter_eq (h.targets value (List.mem_append_left _ hmem))
  rw [mapM_eq_ok] at hbefore hafter
  exact hsame.trans (mapM_eq_ok.mpr (List.rel_append hbefore hafter))

theorem parameterObjects_listed
    (hbefore : before.mapM (resolveParameter document) = .ok first)
    (hwithdrawn : resolveParameter document withdrawn = .ok parameter)
    (hafter : after.mapM (resolveParameter document) = .ok last) :
    parameterObjects document operation = .ok (first ++ parameter :: last) := by
  rw [parameterObjects_eq, h.listed]
  rw [mapM_eq_ok] at hbefore hafter
  exact mapM_eq_ok.mpr (List.rel_append hbefore (.cons hwithdrawn hafter))

end Withdrawn

/-- When an operation is extracted that differs in its parameters alone from an extracted one. -/
theorem extract_iff_of_extract {result : Operation}
    (h : extract method path operation' document' idCollection = .ok result)
    (hobject : operation.isObject = true) (hid : idOf? operation' = idOf? operation)
    (hsummary : summary? operation' = summary? operation)
    (hbody : bodyType? document' operation' = bodyType? document operation)
    (hresponses : responseTypes document' idCollection operation' =
      responseTypes document idCollection operation) :
    extract method path operation document idCollection = .ok result ↔
      ∃ merged, mergedParameters document path operation = .ok merged ∧
        callerParameters merged result.operationId method path =
          .ok (result.parameters, result.requiresToken) := by
  constructor
  · intro h
    exact (extracted_of_extract h).parameters_eq
  · rintro ⟨merged, hmerged, hcaller⟩
    unfold extract at h ⊢
    rw [hid, hsummary, hbody, hresponses] at h
    rw [hobject]
    split at h
    · cases h
    · split at h
      · cases h
      next id hid =>
        simp only [bind_eq_ok] at h
        obtain ⟨template, htemplate, kind, hkind, _, -, ⟨_, _⟩, -, body, hbody, responses,
          hresponses, h⟩ := h
        split at h
        · cases h
        next okResponse hleast =>
          cases h
          simp only [Bool.not_true, Bool.false_eq_true, if_false, bind_eq_ok]
          refine ⟨template, htemplate, kind, hkind, merged, hmerged, _, hcaller, body, hbody,
            responses, hresponses, ?_⟩
          rw [hleast]
          rfl

variable {after ahead : List Document} {redeclared : Document}

/-- An operation that declares an inherited parameter again is extracted as without that exactly if
the parameter is the authorization header, or if all parameters that it moves behind are read like
it, and, where it was the tenant, the tenant in its place is no authorization header. -/
theorem extract_redeclared_iff {result : Operation}
    (h : extract method path operation' document' idCollection = .ok result)
    (hwithdrawn : Withdrawn document operation document' operation' path before redeclared after)
    (hinherited : inheritedParameters document path = .ok (ahead ++ parameter :: behind))
    (hbefore : before.mapM (resolveParameter document) = .ok first)
    (hredeclared : resolveParameter document redeclared = .ok parameter)
    (hafter : after.mapM (resolveParameter document) = .ok last)
    (unique : ∀ other ∈ (ahead ++ behind) ++ (first ++ last), keyOf? other ≠ keyOf? parameter) :
    extract method path operation document idCollection = .ok result ↔
      isAuthorization parameter = true ∨
        (∀ other ∈ undeclared (first ++ last) behind ++ first, isAuthorization other = false →
          Parameter.read other result.operationId = Parameter.read parameter result.operationId) ∧
        (undeclared (first ++ last) ahead = [] →
          ∀ other ∈ (undeclared (first ++ last) behind ++ first).head?,
            isAuthorization other = false) := by
  obtain ⟨uniqueInherited, uniqueOwn⟩ := List.forall_mem_append.mp unique
  obtain ⟨merged, hmerged, hcaller⟩ := (extracted_of_extract h).parameters_eq
  obtain ⟨inherited, own, hinherited', hown, hkeys, rfl⟩ := mergedParameters_eq_ok.mp hmerged
  rw [hwithdrawn.inheritedParameters_eq, hinherited] at hinherited'
  rw [hwithdrawn.parameterObjects_withdrawn hbefore hafter] at hown
  cases hinherited'
  cases hown
  have hlisted := hwithdrawn.parameterObjects_listed hbefore hredeclared hafter
  have hagain : mergedParameters document path operation =
      .ok (undeclared (first ++ last) ahead ++ ((undeclared (first ++ last) behind ++ first) ++
        parameter :: last)) := by
    refine mergedParameters_eq_ok.mpr ⟨_, _, hinherited, hlisted, ?_, ?_⟩
    · intro other hmem
      exact hkeys other (by simp at hmem ⊢; tauto)
    · simp [undeclared_again uniqueInherited]
  rw [extract_iff_of_extract h hwithdrawn.isObject hwithdrawn.idOf?_eq hwithdrawn.summary?_eq
    hwithdrawn.bodyType?_eq hwithdrawn.responseTypes_eq, hagain]
  have hplaces : callerParameters (undeclared (first ++ last) ahead ++ parameter ::
      ((undeclared (first ++ last) behind ++ first) ++ last)) result.operationId method path =
        .ok (result.parameters, result.requiresToken) := by
    simpa [undeclared_once uniqueOwn] using hcaller
  rw [← callerParameters_moved hplaces]
  simp

def bucketPath : String := "/allocation/\x7btenant\x7d/bucket/\x7bid\x7d"

def declaringRaw (own : List Document) : Document := .object [
  (.text "operationId", .text "get_bucket_by_id"),
  (.text "parameters", .array own),
  (.text "responses", .object [(.text "200", .object [(.text "description", .text "ok")])])]

/-- A document with this operation, whose path item has the tenant and the id as parameters. -/
def declaringDocument (own : List Document) : Document := .object [
  (.text "paths", .object [
    (.text bucketPath, .object [
      (.text "parameters", .array [pathParameter "tenant", pathParameter "id"]),
      (.text "get", declaringRaw own)])])]

/-- What extraction makes of it, when the caller gives one parameter. -/
def declaringOperation (given : String) : Operation :=
  { sampleOperation .get bucketPath
      [.literal "allocation", .placeholder "tenant", .literal "bucket", .placeholder "id"]
      "get_bucket_by_id" "bucket" with
    parameters := [⟨given, ⟨.plain, none⟩, none⟩] }

theorem withdrawn_declaring (name : String) :
    Withdrawn (declaringDocument [pathParameter name]) (declaringRaw [pathParameter name])
      (declaringDocument []) (declaringRaw []) bucketPath [] (pathParameter name) [] where
  isObject := rfl
  listed := by rfl
  fewer := by rfl
  others := by
    intro other hother
    simp [declaringRaw, Members.get?, Members.find?, List.find?_cons, Scalar.same_text,
      hother.symm]
  targets := by
    have hconsulted : consulted (declaringRaw [pathParameter name]) =
        [.null, .object [(.text "description", .text "ok")]] := by
      rfl
    have hplain : ∀ value ∈ [Document.null, .object [(.text "description", .text "ok")]],
        Reference.next? value = none := by
      decide +kernel
    intro value hmem
    rw [hconsulted] at hmem
    simp [Reference.resolve, hplain value hmem]
  item := by
    have hplain : ∀ value ∈ [pathParameter "tenant", pathParameter "id"],
        Reference.next? value = none := by
      decide +kernel
    refine ⟨_, _, rfl, rfl, rfl, rfl, fun value hmem => ?_⟩
    simp [Reference.resolve, hplain value hmem]

theorem extract_undeclaring :
    extract .get bucketPath (declaringRaw []) (declaringDocument []) "ChildList" =
      .ok (declaringOperation "id") := by
  decide +kernel

theorem inheritedParameters_declaring (own : List Document) :
    inheritedParameters (declaringDocument own) bucketPath =
      .ok [pathParameter "tenant", pathParameter "id"] := by
  rfl

/-- An id that stands last among the inherited parameters may be declared again. -/
theorem extract_redeclared_id :
    extract .get bucketPath (declaringRaw []) (declaringDocument []) "ChildList" =
      .ok (declaringOperation "id") ∧
    extract .get bucketPath (declaringRaw [pathParameter "id"])
      (declaringDocument [pathParameter "id"]) "ChildList" = .ok (declaringOperation "id") := by
  have hinherited : inheritedParameters (declaringDocument [pathParameter "id"]) bucketPath =
      .ok ([pathParameter "tenant"] ++ pathParameter "id" :: []) := inheritedParameters_declaring _
  have unique : ∀ other ∈ ([pathParameter "tenant"] ++ []) ++ ([] ++ []),
      keyOf? other ≠ keyOf? (pathParameter "id") := by
    decide +kernel
  have hiff := extract_redeclared_iff extract_undeclaring (withdrawn_declaring "id") hinherited rfl
    (by rfl) rfl unique
  exact ⟨extract_undeclaring, hiff.mpr (.inr ⟨by simp [undeclared], by simp [undeclared]⟩)⟩

/-- A tenant that is declared again moves behind the id, which is left out in its place. -/
theorem not_extract_redeclared_tenant :
    inheritedParameters (declaringDocument [pathParameter "tenant"]) bucketPath =
      .ok [pathParameter "tenant", pathParameter "id"] ∧
    Withdrawn (declaringDocument [pathParameter "tenant"]) (declaringRaw [pathParameter "tenant"])
      (declaringDocument []) (declaringRaw []) bucketPath [] (pathParameter "tenant") [] ∧
    extract .get bucketPath (declaringRaw []) (declaringDocument []) "ChildList" =
      .ok (declaringOperation "id") ∧
    extract .get bucketPath (declaringRaw [pathParameter "tenant"])
      (declaringDocument [pathParameter "tenant"]) "ChildList" ≠
        .ok (declaringOperation "id") := by
  refine ⟨inheritedParameters_declaring _, withdrawn_declaring "tenant", extract_undeclaring, ?_⟩
  decide +kernel

end ClientGen.Operation
