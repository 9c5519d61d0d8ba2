import ClientGen.Proofs.Operation.Prepared

/-!
The coroutines that the methods of a wrapped client call. Selectors keep the order of the segments
of a path and ids do not, so two methods can call one coroutine.
-/
namespace ClientGen.Client

open Operation Outcome

variable {features : List String} {document updated : Document} {idCollection : String}
  {collection : Collection}

theorem operations_nodup (h : collect document idCollection = .ok collection) :
    collection.operations.Nodup := by
  have hmethod : ∀ entry ∈ collection, ∀ operation ∈ entry.2, operation.method = entry.1 := by
    rintro ⟨method, operations⟩ hentry operation hoperation
    obtain ⟨-, hcollect⟩ := collectMethod_of_mem h hentry
    obtain ⟨_, _, -, -, hextract⟩ := extract_of_mem_collectMethod hcollect hoperation
    exact (extracted_of_extract hextract).method_eq
  have hmethods : collection.Pairwise (fun a b => a.1 ≠ b.1) := by
    have hnodup : (collection.map (·.1)).Nodup := by
      rw [collection_methods h]
      decide
    rwa [List.Nodup, List.pairwise_map] at hnodup
  refine List.nodup_flatMap.mpr ⟨?_, ?_⟩
  · rintro ⟨method, operations⟩ hentry
    exact (selectors_nodup (collectMethod_of_mem h hentry).2).of_map _
  · refine hmethods.imp_of_mem fun {a b} ha hb hne => ?_
    intro operation hoa hob
    exact hne ((hmethod a ha operation hoa).symm.trans (hmethod b hb operation hob))

/-- Whether the item of the path of an operation is no reference to follow. -/
def ReadInPlace (document : Document) (operation : Operation) : Prop :=
  ∀ members item, paths document = .ok members → (.text operation.path, item) ∈ members →
    Reference.next? item = none

theorem synthesizeId_of_readInPlace (hu : Update.update features document = .ok updated)
    (hc : collect updated idCollection = .ok collection) {operation : Operation}
    (hmem : operation ∈ collection.operations) (hplace : ReadInPlace updated operation) :
    synthesizeId operation.method.name operation.template = .ok operation.operationId := by
  obtain ⟨hmethod, item, raw, horigin⟩ := origin_of_collect hc hmem
  obtain ⟨members, hmembers, hitem⟩ := horigin.path
  exact synthesizeId_of_inPlace hu horigin hmethod (hplace members item hmembers hitem)

/-- When a wrapped module is generated, its methods call distinct coroutines exactly if no two
operations of one method have the same literals and variables in their paths up to the order
between these, and no path item that is a reference brings an id in a second time. -/
theorem operationIds_nodup_iff (hu : Update.update features document = .ok updated)
    {settings : Settings} {text : String}
    (hw : (Generation.wrapped updated settings).result = .ok text) :
    ∃ collection, collect updated settings.idCollectionSchema = .ok collection ∧
      ((collection.operations.map (·.operationId)).Nodup ↔
        ∀ a ∈ collection.operations, ∀ b ∈ collection.operations, a ≠ b →
          (ReadInPlace updated a ∧ ReadInPlace updated b → a.method = b.method →
            idTail a.template ≠ idTail b.template) ∧
          (¬(ReadInPlace updated a ∧ ReadInPlace updated b) →
            a.operationId ≠ b.operationId)) := by
  rw [Generation.result_wrapped, bind_eq_ok] at hw
  obtain ⟨collection, hc, -⟩ := hw
  refine ⟨collection, hc, ?_⟩
  rw [List.nodup_map_iff_inj_on (operations_nodup hc)]
  have hsame : ∀ a ∈ collection.operations, ∀ b ∈ collection.operations,
      ReadInPlace updated a ∧ ReadInPlace updated b →
      (a.operationId = b.operationId ↔ a.method = b.method ∧
        idTail a.template = idTail b.template) := by
    rintro a ha b hb ⟨hplaceA, hplaceB⟩
    exact synthesizeId_inj (synthesizeId_of_readInPlace hu hc ha hplaceA)
      (synthesizeId_of_readInPlace hu hc hb hplaceB)
  constructor
  · intro hinj a ha b hb hne
    refine ⟨fun hplace hmethod htail => hne ?_, fun _ hid => hne (hinj a ha b hb hid)⟩
    exact hinj a ha b hb ((hsame a ha b hb hplace).mpr ⟨hmethod, htail⟩)
  · intro h a ha b hb hid
    by_contra hne
    obtain ⟨hinPlace, hreferring⟩ := h a ha b hb hne
    by_cases hplace : ReadInPlace updated a ∧ ReadInPlace updated b
    · obtain ⟨hmethod, htail⟩ := (hsame a ha b hb hplace).mp hid
      exact hinPlace hplace hmethod htail
    · exact hreferring hplace hid

/-- Two paths with the same segments in another order. -/
def crossedDocument : Document := .object [
  (.text "paths", .object [
    (.text "/allocation/\x7btenant\x7d/task/log/\x7bname\x7d",
      readItem [pathParameter "tenant", pathParameter "name"]),
    (.text "/allocation/\x7btenant\x7d/task/\x7bname\x7d/log",
      readItem [pathParameter "tenant", pathParameter "name"])])]

def crossedPrepared : Document := (Update.update [] crossedDocument).toOption.getD .null

theorem update_crossedDocument : Update.update [] crossedDocument = .ok crossedPrepared := by
  decide +kernel

def crossedRead (path : String) (segments : List Segment) (selector : String) : Operation :=
  { sampleOperation .get path (.literal "allocation" :: .placeholder "tenant" ::
      .literal "task" :: segments) "get_task_log_by_name" selector with
    parameters := [⟨"name", ⟨.plain, none⟩, none⟩]
    requiresToken := true }

def crossedReads : List Operation := [
  crossedRead "/allocation/\x7btenant\x7d/task/log/\x7bname\x7d"
    [.literal "log", .placeholder "name"] "task-log-name",
  crossedRead "/allocation/\x7btenant\x7d/task/\x7bname\x7d/log"
    [.placeholder "name", .literal "log"] "task-name-log"]

def crossedCollection : Collection :=
  [(.get, crossedReads), (.delete, []), (.post, []), (.put, [])]

theorem collect_crossedPrepared :
    collect crossedPrepared "ChildList" = .ok crossedCollection := by
  have hreads : collectMethod crossedPrepared "ChildList" .get = .ok crossedReads :=
    collectMethod_of_ordered crossedReads (by decide +kernel) (by decide +kernel)
      (by decide +kernel)
  refine collect_of_methods ?_ ?_ hreads ?_ ?_ ?_
  all_goals decide +kernel

theorem wrapped_crossedPrepared :
    ∃ text, (Generation.wrapped crossedPrepared {}).result = .ok text := by
  have hsort : sort crossedCollection.operations = crossedReads :=
    sort_of_pairwise (by decide +kernel)
  have hrender : ∃ text, renderWrapped crossedReads ({} : Settings).modules crossedPrepared =
      .ok text :=
    ⟨_, eq_ok_value _ (by decide +kernel)⟩
  obtain ⟨text, htext⟩ := hrender
  refine ⟨text, ?_⟩
  rw [Generation.result_wrapped, bind_eq_ok]
  refine ⟨crossedCollection, collect_crossedPrepared, ?_⟩
  rw [hsort]
  exact htext

/-- Two methods of different names call the same coroutine. -/
theorem wrapped_shares_coroutine :
    Update.update [] crossedDocument = .ok crossedPrepared ∧
    (∃ text, (Generation.wrapped crossedPrepared {}).result = .ok text) ∧
    collect crossedPrepared "ChildList" = .ok crossedCollection ∧
    (crossedCollection.operations.map methodName).Nodup ∧
    ¬(crossedCollection.operations.map (·.operationId)).Nodup := by
  refine ⟨update_crossedDocument, wrapped_crossedPrepared, collect_crossedPrepared, ?_, ?_⟩
  · decide +kernel
  · decide +kernel

theorem operationIds_nodup_iff_crossed :
    Update.update [] crossedDocument = .ok crossedPrepared ∧
    ∃ text, (Generation.wrapped crossedPrepared {}).result = .ok text ∧
      ∃ collection, collect crossedPrepared ({} : Settings).idCollectionSchema =
          .ok collection ∧
        ((collection.operations.map (·.operationId)).Nodup ↔
          ∀ a ∈ collection.operations, ∀ b ∈ collection.operations, a ≠ b →
            (ReadInPlace crossedPrepared a ∧ ReadInPlace crossedPrepared b →
              a.method = b.method → idTail a.template ≠ idTail b.template) ∧
            (¬(ReadInPlace crossedPrepared a ∧ ReadInPlace crossedPrepared b) →
              a.operationId ≠ b.operationId)) := by
  obtain ⟨text, htext⟩ := wrapped_crossedPrepared
  exact ⟨update_crossedDocument, text, htext, operationIds_nodup_iff update_crossedDocument htext⟩

end ClientGen.Client
