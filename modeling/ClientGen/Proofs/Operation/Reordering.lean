import ClientGen.Proofs.Operation.Collection
import ClientGen.Proofs.Schema.Reordering

/-!
Collecting operations does not depend on the order of members, but for the order in which an
operation lists its responses.
-/
namespace ClientGen.Operation

open Document Outcome

variable {d d' : Document} {idCollection : String} {method : Method}

/-- An operation without the lists of its responses. -/
def core (operation : Operation) : Operation :=
  { operation with okResponses := [], errorResponses := [] }

/-- Equal but for the order in which responses are listed. -/
structure Alike (a b : Operation) : Prop where
  core_eq : a.core = b.core
  okResponses_perm : a.okResponses.Perm b.okResponses
  errorResponses_perm : a.errorResponses.Perm b.errorResponses

theorem agree_paths (hd : Reordered d d') :
    Agree (fun members members' => Reordered (.object members) (.object members'))
      (paths d) (paths d') := by
  have hpaths := (hd.get "paths").rel_membersOrVoid?
  unfold paths
  rw [hd.isObject]
  generalize (d.get "paths").membersOrVoid? = x at *
  generalize (d'.get "paths").membersOrVoid? = y at *
  split
  · exact .error _ _
  · cases hpaths with
    | none => exact .error _ _
    | some hmembers => exact .ok hmembers

theorem agree_rawOf (hd : Reordered d d') (method : Method) :
    Agree (UpToOrder ReorderedMember) (rawOf d method) (rawOf d' method) := by
  unfold rawOf
  refine (agree_paths hd).bind fun members members' hmembers => ?_
  refine Agree.bind (R := UpToOrder fun entry entry' => entry.1 = entry'.1 ∧
    Option.Rel Reordered entry.2 entry'.2) (hmembers.upToOrder_members.mapM ?_) ?_
  · rintro ⟨path, item⟩ ⟨_, item'⟩ ⟨rfl, hitem⟩
    refine (hd.agree_resolve hitem).bind fun target target' htarget => ?_
    exact .ok ⟨rfl, htarget.rel_get? method.name⟩
  · intro items items' hitems
    refine .ok (hitems.filterMap ?_)
    rintro ⟨path, raw⟩ ⟨_, raw'⟩ ⟨rfl, hraw⟩
    cases hraw with
    | none => exact .none
    | some hraw =>
      dsimp only
      rw [hraw.isObject]
      split
      · exact .some ⟨rfl, hraw⟩
      · exact .none

theorem agree_refuse (hd : Reordered d d') (method : Method) :
    Agree Eq (refuse d method) (refuse d' method) := by
  unfold refuse
  refine (agree_rawOf hd method).bind fun raws raws' hraws => ?_
  have hlength := hraws.length_eq
  cases raws with
  | nil =>
    obtain rfl := List.length_eq_zero_iff.mp hlength.symm
    exact .ok rfl
  | cons raw rest =>
    cases raws' with
    | nil => simp at hlength
    | cons raw' rest' =>
      dsimp only
      split <;> split <;> exact .error _ _

theorem isAuthorization_eq {parameter parameter' : Document}
    (h : Reordered parameter parameter') :
    isAuthorization parameter = isAuthorization parameter' := by
  have hname : isAuthorizationName (parameter.get "name") =
      isAuthorizationName (parameter'.get "name") := by
    have h := h.get "name"
    generalize parameter.get "name" = x at *
    generalize parameter'.get "name" = y at *
    cases h <;> rfl
  rw [isAuthorization, isAuthorization, hname, (h.get "in").beq_scalar]

theorem agree_resolveParameter (hd : Reordered d d') {parameter parameter' : Document}
    (h : Reordered parameter parameter') :
    Agree Reordered (resolveParameter d parameter) (resolveParameter d' parameter') := by
  have hresolved := hd.agree_resolve h
  unfold resolveParameter
  generalize Reference.resolve d parameter = x at *
  generalize Reference.resolve d' parameter' = y at *
  cases hresolved with
  | error failure failure' => cases failure <;> cases failure' <;> exact .error _ _
  | ok hvalue =>
    simp only [hvalue.isObject]
    split
    · exact .ok hvalue
    · exact .error _ _

theorem agree_parameterKeys (d d' : Document) (values values' : List Scalar)
    (hlength : values.length = values'.length) :
    Agree (List.Forall₂ Reordered)
      ((values.map Document.scalar).mapM (resolveParameter d))
      ((values'.map Document.scalar).mapM (resolveParameter d')) := by
  cases values with
  | nil =>
    obtain rfl := List.length_eq_zero_iff.mp hlength.symm
    exact .ok .nil
  | cons value rest =>
    cases values' with
    | nil => simp at hlength
    | cons value' rest' => exact .error _ _

theorem agree_parameterObjects (hd : Reordered d d') {holder holder' : Document}
    (h : Reordered holder holder') :
    Agree (List.Forall₂ Reordered) (parameterObjects d holder) (parameterObjects d' holder') := by
  have hparameters := h.get "parameters"
  have hvoid := hparameters.isVoid
  unfold parameterObjects
  generalize holder.get "parameters" = x at *
  generalize holder'.get "parameters" = y at *
  simp only [hvoid]
  split
  · exact .ok .nil
  · cases hparameters with
    | scalar value =>
      cases value with
      | text s =>
        have hkeys := agree_parameterKeys d d'
          (s.toList.map fun c => .text (String.singleton c)) _ rfl
        simpa only [elements?, untie_scalar, List.map_map, Function.comp_def] using hkeys
      | bytes bytes =>
        have hkeys := agree_parameterKeys d d'
          (bytes.map fun (byte : Nat) => .int byte) _ rfl
        simpa only [elements?, untie_scalar, List.map_map, Function.comp_def] using hkeys
      | _ => exact .error _ _
    | array hlength hitems =>
      exact Agree.mapM (List.forall₂_iff_zip.mpr ⟨hlength, hitems⟩) fun _ _ hitem =>
        agree_resolveParameter hd hitem
    | @object members members' once keys values =>
      -- a walk over an object visits its keys, and the first of them is refused
      have hkeys := agree_parameterKeys d d' (members.map (·.1)) (members'.map (·.1))
        keys.length_eq
      simpa only [elements?, untie_object, List.map_map, Function.comp_def] using hkeys

theorem agree_parameterKey {parameter parameter' : Document} (h : Reordered parameter parameter') :
    Agree Eq (parameterKey parameter) (parameterKey parameter') := by
  have hname := h.get "name"
  have hplace := h.get "in"
  unfold parameterKey
  generalize parameter.get "name" = x at *
  generalize parameter'.get "name" = y at *
  generalize parameter.get "in" = z at *
  generalize parameter'.get "in" = w at *
  cases hname with
  | scalar name => cases hplace <;> first | exact .ok rfl | exact .error _ _
  | _ => exact .error _ _

theorem agree_pathItem (hd : Reordered d d') (path : String) :
    Agree Reordered (pathItem d path) (pathItem d' path) := by
  unfold pathItem
  refine (agree_paths hd).bind fun members members' hmembers => ?_
  have hitem := hmembers.get path
  simp only [Document.get, get?_object] at hitem
  refine hd.agree_resolve ?_
  rw [hitem.isVoid]
  split
  · exact .object List.nodup_nil (.refl _) (by simp)
  · exact hitem

theorem agree_mergedParameters (hd : Reordered d d') (path : String) {raw raw' : Document}
    (h : Reordered raw raw') :
    Agree (List.Forall₂ Reordered) (mergedParameters d path raw)
      (mergedParameters d' path raw') := by
  unfold mergedParameters
  refine (agree_pathItem hd path).bind fun item item' hitem => ?_
  rw [hitem.isObject]
  split
  · exact .error _ _
  · refine (agree_parameterObjects hd hitem).bind fun inherited inherited' hinherited => ?_
    refine (agree_parameterObjects hd h).bind fun own own' hown => ?_
    have hkeys := Agree.mapM hown fun _ _ => agree_parameterKey
    rw [List.forall₂_eq_eq_eq] at hkeys
    refine hkeys.bind ?_
    rintro declared _ rfl
    refine Agree.bind (R := List.Forall₂ fun (pair pair' : (Scalar × Scalar) × Document) =>
      pair.1 = pair'.1 ∧ Reordered pair.2 pair'.2) (Agree.mapM hinherited ?_) ?_
    · intro parameter parameter' hparameter
      refine (agree_parameterKey hparameter).bind ?_
      rintro key _ rfl
      exact .ok ⟨rfl, hparameter⟩
    · intro keyed keyed' hkeyed
      refine .ok (List.rel_append ?_ hown)
      refine List.rel_map (fun _ _ hpair => hpair.2) (List.rel_filter ?_ hkeyed)
      intro pair pair' hpair
      simp [hpair.1]

theorem agree_callerParameters {parameters parameters' : List Document}
    (h : List.Forall₂ Reordered parameters parameters') (operationId path : String) :
    Agree Eq (callerParameters parameters operationId method path)
      (callerParameters parameters' operationId method path) := by
  cases h with
  | nil => exact .ok rfl
  | @cons tenant tenant' rest rest' htenant hrest =>
    have hany : rest.any isAuthorization = rest'.any isAuthorization := by
      clear htenant
      induction hrest with
      | nil => rfl
      | cons head _ ih => rw [List.any_cons, List.any_cons, isAuthorization_eq head, ih]
    have hgiven := List.rel_filter (p := fun parameter => !isAuthorization parameter)
      (q := fun parameter => !isAuthorization parameter)
      (fun _ _ hparameter => by simp [isAuthorization_eq hparameter]) hrest
    simp only [callerParameters, isAuthorization_eq htenant, hany]
    split
    · exact .error _ _
    · refine (Agree.mapM hgiven fun _ _ hparameter =>
        Parameter.agree_read hparameter operationId).bind fun given given' hsame => ?_
      rw [List.forall₂_eq_eq_eq] at hsame
      exact .ok (by rw [hsame])

theorem agree_bodyType? (hd : Reordered d d') {raw raw' : Document} (h : Reordered raw raw') :
    Agree Eq (bodyType? d raw) (bodyType? d' raw') := by
  have hbody := h.get "requestBody"
  unfold bodyType?
  simp only [hbody.isNull]
  split
  · exact .ok rfl
  · refine (hd.agree_resolve hbody).bind fun target target' htarget => ?_
    refine (BodyType.agree_read htarget).bind ?_
    rintro body _ rfl
    exact .ok rfl

theorem agree_responseTypes (hd : Reordered d d') {raw raw' : Document} (h : Reordered raw raw') :
    Agree List.Perm (responseTypes d idCollection raw) (responseTypes d' idCollection raw') := by
  have hresponses := (h.get "responses").rel_membersOrVoid?
  unfold responseTypes
  generalize (raw.get "responses").membersOrVoid? = x at *
  generalize (raw'.get "responses").membersOrVoid? = y at *
  cases hresponses with
  | none => exact .error _ _
  | some hmembers =>
    refine Agree.bind (R := UpToOrder Eq) (hmembers.upToOrder_members.mapM ?_) ?_
    · rintro ⟨code, response⟩ ⟨_, response'⟩ ⟨rfl, hresponse⟩
      refine Agree.same.bind ?_
      rintro status _ rfl
      cases status with
      | none => exact .ok rfl
      | some status =>
        refine (hd.agree_resolve hresponse).bind fun target target' htarget => ?_
        refine (ResponseType.agree_read htarget idCollection).bind ?_
        rintro type _ rfl
        exact .ok rfl
    · intro types types' htypes
      exact .ok (htypes.perm.filterMap id)

theorem summary?_eq {raw raw' : Document} (h : Reordered raw raw') :
    summary? raw = summary? raw' := by
  have hsummary := h.get "summary"
  unfold summary?
  generalize raw.get "summary" = x at *
  generalize raw'.get "summary" = y at *
  cases hsummary <;> rfl

theorem idOf?_eq {raw raw' : Document} (h : Reordered raw raw') : idOf? raw = idOf? raw' := by
  have hid := h.get "operationId"
  unfold idOf?
  generalize raw.get "operationId" = x at *
  generalize raw'.get "operationId" = y at *
  cases hid <;> rfl

theorem leastResponse?_perm {responses responses' : List (Nat × ResponseType)}
    (h : responses.Perm responses') (distinct : (responses.map (·.1)).Nodup) :
    leastResponse? responses = leastResponse? responses' := by
  induction h with
  | nil => rfl
  | cons response _ ih =>
    rw [leastResponse?, leastResponse?, ih (List.nodup_cons.mp distinct).2]
  | swap a b rest =>
    -- of two responses of one status the first would be chosen
    have hne : b.1 ≠ a.1 := by
      simp only [List.map_cons, List.nodup_cons, List.mem_cons, not_or] at distinct
      exact distinct.1.1
    simp only [leastResponse?]
    cases leastResponse? rest with
    | none => simp only; split <;> split <;> first | rfl | omega
    | some other =>
      dsimp only
      grind
  | trans hab _ ihab ihbc =>
    exact (ihab distinct).trans (ihbc ((hab.map _).nodup_iff.mp distinct))

def statuses (raw : Document) : List Nat :=
  (((raw.get "responses").membersOrVoid?).getD []).filterMap fun response =>
    (status? response.1).toOption.join

theorem responseTypes_map_status {raw : Document} {types : List (Nat × ResponseType)}
    (h : responseTypes d idCollection raw = .ok types) : types.map (·.1) = statuses raw := by
  unfold responseTypes at h
  unfold statuses
  split at h
  · cases h
  next responses hresponses =>
    simp only [bind_eq_ok, pure_eq_ok] at h
    obtain ⟨read, hread, rfl⟩ := h
    rw [hresponses, Option.getD_some]
    have hall := mapM_eq_ok.mp hread
    clear hread hresponses
    induction hall with
    | nil => rfl
    | @cons response type responses types head _ ih =>
      simp only [bind_eq_ok] at head
      obtain ⟨status, hstatus, head⟩ := head
      rw [List.filterMap_cons, List.filterMap_cons, hstatus]
      cases status with
      | none =>
        cases head
        exact ih
      | some status =>
        simp only [bind_eq_ok, pure_eq_ok] at head
        obtain ⟨_, _, _, _, rfl⟩ := head
        exact congrArg (status :: ·) ih

theorem agree_extract (hd : Reordered d d') {raw raw' : Document} (h : Reordered raw raw')
    (path : String) (distinct : (statuses raw).Nodup) :
    Agree Alike (extract method path raw d idCollection)
      (extract method path raw' d' idCollection) := by
  unfold extract
  rw [h.isObject, idOf?_eq h, summary?_eq h]
  split
  · exact .error _ _
  · split
    · exact .error _ _
    next operationId _ =>
      refine Agree.same.bind ?_
      rintro template _ rfl
      refine Agree.same.bind ?_
      rintro kind _ rfl
      refine (agree_mergedParameters hd path h).bind fun merged merged' hmerged => ?_
      refine (agree_callerParameters hmerged operationId path).bind ?_
      rintro ⟨parameters, token⟩ _ rfl
      refine (agree_bodyType? hd h).bind ?_
      rintro body _ rfl
      refine (agree_responseTypes hd h).with_eq.bind ?_
      rintro types types' ⟨htypes, hperm⟩
      have hok : (types.filter fun response => isOk response.1).Perm
          (types'.filter fun response => isOk response.1) := hperm.filter _
      have hleast := leastResponse?_perm hok
        ((responseTypes_map_status htypes ▸ distinct).sublist (List.filter_sublist.map _))
      dsimp only
      rw [hleast]
      split
      · exact .error _ _
      · exact .ok ⟨rfl, hok, hperm.filter _⟩

/-- No operation has two responses of the same status. -/
def StatusesOnce (document : Document) : Prop :=
  ∀ method ∈ Method.supported, ∀ raws, rawOf document method = .ok raws →
    ∀ raw ∈ raws, (statuses raw.2).Nodup

theorem agree_extractAt (hd : Reordered d d') {raw raw' : Document} (h : Reordered raw raw')
    (key : Scalar) (distinct : (statuses raw).Nodup) :
    Agree Alike (extractAt method key raw d idCollection)
      (extractAt method key raw' d' idCollection) := by
  unfold extractAt
  rw [idOf?_eq h]
  split
  · exact agree_extract hd h _ distinct
  · split <;> exact .error _ _

namespace Alike

variable {a b : Operation}

theorem selector_eq (h : Alike a b) : a.selector = b.selector := by
  have hcore := congrArg selector h.core_eq
  exact hcore

theorem path_eq (h : Alike a b) : a.path = b.path := by
  have hcore := congrArg path h.core_eq
  exact hcore

theorem wideSelector_eq (h : Alike a b) : a.wideSelector = b.wideSelector := by
  have hcore := congrArg wideSelector h.core_eq
  exact hcore

theorem settled (h : Alike a b) (taken : List String) :
    Alike (settled taken a) (settled taken b) := by
  unfold Operation.settled
  rw [h.selector_eq]
  split
  · refine ⟨?_, h.okResponses_perm, h.errorResponses_perm⟩
    rw [h.wideSelector_eq]
    exact congrArg (fun operation : Operation => { operation with selector := b.wideSelector })
      h.core_eq
  · exact h

end Alike

theorem forall₂_widen {operations operations' : List Operation}
    (h : List.Forall₂ Alike operations operations') (taken : List String) :
    List.Forall₂ Alike (widen taken operations) (widen taken operations') := by
  induction h generalizing taken with
  | nil => exact .nil
  | cons head _ ih =>
    rw [widen_cons, widen_cons, (head.settled taken).selector_eq]
    exact .cons (head.settled taken) (ih _)

theorem agree_assignSelectors {operations operations' : List Operation}
    (h : List.Forall₂ Alike (sortByPath operations) (sortByPath operations')) :
    Agree (List.Forall₂ Alike) (assignSelectors method operations)
      (assignSelectors method operations') := by
  have hwiden := forall₂_widen h []
  have hselectors : (widen [] (sortByPath operations)).map (·.selector) =
      (widen [] (sortByPath operations')).map (·.selector) := by
    rw [← List.forall₂_eq_eq_eq, List.forall₂_map_left_iff, List.forall₂_map_right_iff]
    exact hwiden.imp fun _ _ halike => halike.selector_eq
  simp only [assignSelectors, hselectors]
  split
  · exact .ok hwiden
  · exact .error _ _

theorem agree_collectMethod (hd : Reordered d d') (once : StatusesOnce d)
    (hmethod : method ∈ Method.supported) :
    Agree (List.Forall₂ Alike) (collectMethod d idCollection method)
      (collectMethod d' idCollection method) := by
  unfold collectMethod
  refine (agree_rawOf hd method).with_eq.bind ?_
  rintro raws raws' ⟨hraws, hrelated⟩
  have hstatuses := hrelated.and_left (once method hmethod raws hraws)
  refine (hstatuses.mapM (S := Alike) ?_).with_eq.bind ?_
  · rintro ⟨key, raw⟩ ⟨_, raw'⟩ ⟨hdistinct, rfl, hraw⟩
    exact agree_extractAt hd hraw key hdistinct
  · rintro sources sources' ⟨hsources, hrelated⟩
    -- paths are distinct, so sorting by them leaves nothing of the order of the members
    have hpaths := sources_paths_nodup hd.isJson.2 hraws hsources
    have hpaths' := (hrelated.map_perm fun _ _ halike => halike.path_eq).nodup_iff.mp hpaths
    have hsorted := hrelated.forall₂_of_sorted (fun _ _ halike => halike.path_eq)
      (sortByPath_perm sources) (sortByPath_perm sources')
      (sortByPath_strict hpaths) (sortByPath_strict hpaths')
    refine (agree_assignSelectors hsorted).with_eq.bind ?_
    rintro assigned assigned' ⟨hassigned, halike⟩
    have hdistinct := (assignSelectors_eq_ok.mp hassigned).2
    have halike := UpToOrder.of_forall₂ halike
    have hdistinct' := (halike.map_perm fun _ _ h => h.selector_eq).nodup_iff.mp hdistinct
    exact .ok (halike.forall₂_of_sorted (fun _ _ h => h.selector_eq) (sort_perm assigned)
      (sort_perm assigned') (sort_strict hdistinct) (sort_strict hdistinct'))

/-- Collecting the operations of documents that are the same up to the order of members fails for
both or gives operations that are equal, place by place, up to the order of their responses. -/
theorem agree_collect (hd : Reordered d d') (once : StatusesOnce d) (idCollection : String) :
    Agree (List.Forall₂ fun entry entry' =>
        entry.1 = entry'.1 ∧ List.Forall₂ Alike entry.2 entry'.2)
      (collect d idCollection) (collect d' idCollection) := by
  unfold collect
  have hrefuse : Agree Eq (Method.unsupported.forM (refuse d))
      (Method.unsupported.forM (refuse d')) := by
    generalize Method.unsupported = methods
    induction methods with
    | nil => exact .ok rfl
    | cons method rest ih => exact (agree_refuse hd method).bind fun _ _ _ => ih
  refine hrefuse.bind fun _ _ _ => ?_
  refine Agree.mapM (R := fun method method' => method = method' ∧ method ∈ Method.supported)
    (List.forall₂_same.mpr fun method hmethod => ⟨rfl, hmethod⟩) ?_
  rintro method _ ⟨rfl, hmethod⟩
  exact (agree_collectMethod hd once hmethod).bind fun _ _ halike => .ok ⟨rfl, halike⟩

end ClientGen.Operation
