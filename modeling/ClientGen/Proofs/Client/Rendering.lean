import ClientGen.Client.Generic
import ClientGen.Client.Wrapped
import ClientGen.Proofs.Operation.Reordering

/-!
Generated text does not show how an operation lists its responses, nor in which order the members of
a document stand.
-/
namespace ClientGen.Client

open Document Operation

variable (modules : Modules) (document : Document)

theorem dispatchKeys_core (method : Method) (operations : List Operation) (byPath : Bool) :
    dispatchKeys method (operations.map core) byPath = dispatchKeys method operations byPath := by
  simp only [dispatchKeys, List.foldl_map]
  rfl

theorem methodDoc_core (method : Method) (operations : List Operation) :
    methodDoc method (operations.map core) = methodDoc method operations := by
  simp only [methodDoc, List.map_map, List.isEmpty_map]
  rfl

theorem methodView_core (method : Method) (operations : List Operation) (byPath : Bool) :
    MethodView.of method (operations.map core) byPath =
      MethodView.of method operations byPath := by
  simp only [MethodView.of, dispatchKeys_core, methodDoc_core, List.map_map]
  rfl

theorem importedTypes_core (operations : List Operation) :
    importedTypes (operations.map core) = importedTypes operations := by
  simp only [importedTypes, List.flatMap_map]
  rfl

def coreCollection (collection : Collection) : Collection :=
  collection.map fun entry => (entry.1, entry.2.map core)

theorem operations_coreCollection (collection : Collection) :
    (coreCollection collection).operations = collection.operations.map core := by
  simp only [coreCollection, Collection.operations, List.flatMap_map, List.map_flatMap]

theorem renderGeneric_core (collection : Collection) (byPath : Bool) :
    renderGeneric (coreCollection collection) modules byPath document =
      renderGeneric collection modules byPath document := by
  have hnames : (collection.operations.map core).map handlerName =
      collection.operations.map handlerName := by
    rw [List.map_map]
    rfl
  have hviews : ((coreCollection collection).mapM fun entry =>
      MethodView.of entry.1 entry.2 byPath) =
        collection.mapM fun entry => MethodView.of entry.1 entry.2 byPath := by
    simp only [coreCollection, List.mapM_map, Function.comp_def, methodView_core]
  simp only [renderGeneric, operations_coreCollection, hnames, importedTypes_core]
  rw [hviews]

theorem renderWrapped_core (operations : List Operation) :
    renderWrapped (operations.map core) modules document =
      renderWrapped operations modules document := by
  have hnames : (operations.map core).map methodName = operations.map methodName := by
    rw [List.map_map]
    rfl
  have hids : (operations.map core).any (fun operation => operation.okResponse.kind == .ids) =
      operations.any fun operation => operation.okResponse.kind == .ids := by
    rw [List.any_map]
    rfl
  have hviews : (operations.map core).mapM WrappedView.of = operations.mapM WrappedView.of := by
    rw [List.mapM_map]
    rfl
  simp only [renderWrapped, hnames, importedTypes_core, hids, hviews]

theorem sort_core (operations : List Operation) :
    sort (operations.map core) = (sort operations).map core :=
  (List.map_mergeSort (r := precedes) (s := precedes) (f := core) fun _ _ _ _ => rfl).symm

variable {d d' : Document}

theorem map_core_of_alike {operations operations' : List Operation}
    (h : List.Forall₂ Alike operations operations') :
    operations.map core = operations'.map core := by
  rw [← List.forall₂_eq_eq_eq, List.forall₂_map_left_iff, List.forall₂_map_right_iff]
  exact h.imp fun _ _ halike => halike.core_eq

theorem coreCollection_of_alike {collection collection' : Collection}
    (h : List.Forall₂ (fun entry entry' =>
      entry.1 = entry'.1 ∧ List.Forall₂ Alike entry.2 entry'.2) collection collection') :
    coreCollection collection = coreCollection collection' := by
  unfold coreCollection
  rw [← List.forall₂_eq_eq_eq, List.forall₂_map_left_iff, List.forall₂_map_right_iff]
  exact h.imp fun _ _ hentry => Prod.ext hentry.1 (map_core_of_alike hentry.2)

theorem get?_of_membersOrVoid? {info : Document} {members : Members}
    (h : info.membersOrVoid? = some members) (name : String) :
    Members.get? members name = info.get? name := by
  unfold membersOrVoid? at h
  unfold get?
  split at h
  · cases h
    rfl
  · split at h
    · cases h
      rfl
    · cases h

theorem agree_documentVersion (hd : Reordered d d')
    (hversion : ∃ value, (d.get "info").get "version" = .scalar value) :
    Agree Eq (documentVersion d) (documentVersion d') := by
  obtain ⟨value, hvalue⟩ := hversion
  have hvalue' := (((hd.get "info").get "version").eq_scalar_iff value).mp hvalue
  have hinfo := (hd.get "info").rel_membersOrVoid?
  unfold documentVersion
  rw [hd.isObject]
  split
  · exact .error _ _
  · cases hmembers : (d.get "info").membersOrVoid? with
    | none =>
      cases hmembers' : (d'.get "info").membersOrVoid? with
      | none => exact .error _ _
      | some _ => simp [hmembers, hmembers'] at hinfo
    | some members =>
      cases hmembers' : (d'.get "info").membersOrVoid? with
      | none => simp [hmembers, hmembers'] at hinfo
      | some members' =>
        simp only [get?_of_membersOrVoid? hmembers, get?_of_membersOrVoid? hmembers']
        rw [Document.get] at hvalue hvalue'
        rw [hvalue, hvalue']
        exact .ok rfl

theorem agree_renderGeneric (hd : Reordered d d')
    (hversion : ∃ value, (d.get "info").get "version" = .scalar value)
    {collection collection' : Collection} (h : List.Forall₂ (fun entry entry' =>
      entry.1 = entry'.1 ∧ List.Forall₂ Alike entry.2 entry'.2) collection collection')
    (byPath : Bool) :
    Agree Eq (renderGeneric collection modules byPath d)
      (renderGeneric collection' modules byPath d') := by
  rw [← renderGeneric_core, ← renderGeneric_core modules d', coreCollection_of_alike h]
  unfold renderGeneric
  split
  · refine Agree.same.bind ?_
    rintro views _ rfl
    refine (agree_documentVersion hd hversion).bind ?_
    rintro version _ rfl
    exact Agree.same
  · exact .error _ _

theorem agree_renderWrapped (hd : Reordered d d')
    (hversion : ∃ value, (d.get "info").get "version" = .scalar value)
    {operations operations' : List Operation} (h : operations.map core = operations'.map core) :
    Agree Eq (renderWrapped operations modules d) (renderWrapped operations' modules d') := by
  rw [← renderWrapped_core, ← renderWrapped_core modules d', h]
  unfold renderWrapped
  split
  · refine (agree_documentVersion hd hversion).bind ?_
    rintro version _ rfl
    exact Agree.same
  · exact .error _ _

end ClientGen.Client
