import ClientGen.Client.Generic
import ClientGen.Proofs.Lookup
import ClientGen.Proofs.Operation.Collection
import Mathlib.Data.List.Induction

/-!
The dispatch tables of the generic client. In a rendered module every operation is found under its
selector, its id and its path where paths are asked for, and nothing else is found. A table is
refused exactly when two operations would share a key.
-/
namespace ClientGen.Client

open Operation Outcome

variable {byPath : Bool} {operations : List Operation} {operation : Operation} {key : String}

/-- Whether a text calls an operation: its selector, its id or, where asked for, its path. -/
def IsKey (byPath : Bool) (operation : Operation) (key : String) : Prop :=
  key = operation.selector ∨ key = operation.operationId ∨ (byPath = true ∧ key = operation.path)

theorem mem_callKeys : key ∈ callKeys operation byPath ↔ IsKey byPath operation key := by
  cases byPath <;> simp [callKeys, IsKey]

/-- Every key of every operation with its handler, in the order in which they are added. -/
def claims (byPath : Bool) (operations : List Operation) : List (String × String) :=
  operations.flatMap fun operation =>
    (callKeys operation byPath).map fun key => (key, handlerName operation)

theorem mem_claims {handler : String} :
    (key, handler) ∈ claims byPath operations ↔
      ∃ operation ∈ operations, IsKey byPath operation key ∧ handlerName operation = handler := by
  simp [claims, mem_callKeys]

def Dispatch.addClaim (table : Dispatch) (claim : String × String) : Dispatch :=
  table.add claim.1 claim.2

/-- The table of all operations is made from one claim after another. -/
theorem foldl_addOperation (table : Dispatch) :
    operations.foldl (Dispatch.addOperation byPath) table =
      (claims byPath operations).foldl Dispatch.addClaim table := by
  rw [claims, List.foldl_flatMap]
  congr 1
  funext table operation
  rw [List.foldl_map]
  rfl

/-- What a table knows about the claims so far: each key has the handler that claimed it first, and
a key clashes if another handler claims it. -/
structure Dispatch.Settles (claims : List (String × String)) (table : Dispatch) : Prop where
  keys_nodup : (table.entries.map (·.1)).Nodup
  lookup_eq : ∀ key, table.entries.lookup key = claims.lookup key
  mem_clashes : ∀ key, key ∈ table.clashes ↔
    ∃ handler, (key, handler) ∈ claims ∧ claims.lookup key ≠ some handler

/-- Which claims of a key are lost, after one more claim. -/
theorem lost_append_iff {claims : List (String × String)} {other handler : String} :
    (∃ lost, (key, lost) ∈ claims ++ [(other, handler)] ∧
        (claims ++ [(other, handler)]).lookup key ≠ some lost) ↔
      (∃ lost, (key, lost) ∈ claims ∧ claims.lookup key ≠ some lost) ∨
        (key = other ∧ ∃ owner, claims.lookup key = some owner ∧ owner ≠ handler) := by
  constructor
  · rintro ⟨lost, hmem, hlost⟩
    rcases List.mem_append.mp hmem with hmem | hmem
    · obtain ⟨owner, howner⟩ := isSome_lookup_of_mem hmem
      rw [lookup_append_of_some howner] at hlost
      exact .inl ⟨lost, hmem, howner ▸ hlost⟩
    · obtain ⟨rfl, rfl⟩ : key = other ∧ lost = handler := by simpa using hmem
      cases howner : claims.lookup key with
      | none => simp [List.lookup_append, howner] at hlost
      | some owner =>
        rw [lookup_append_of_some howner] at hlost
        exact .inr ⟨rfl, owner, rfl, fun hsame => hlost (by rw [hsame])⟩
  · rintro (⟨lost, hmem, hlost⟩ | ⟨rfl, owner, howner, hne⟩)
    · obtain ⟨owner, howner⟩ := isSome_lookup_of_mem hmem
      refine ⟨lost, List.mem_append_left _ hmem, ?_⟩
      rw [lookup_append_of_some howner, ← howner]
      exact hlost
    · refine ⟨handler, by simp, ?_⟩
      rw [lookup_append_of_some howner]
      simpa using hne

theorem Dispatch.Settles.add {claims : List (String × String)} {table : Dispatch}
    (h : table.Settles claims) (key handler : String) :
    (table.add key handler).Settles (claims ++ [(key, handler)]) := by
  have hkey := h.lookup_eq key
  unfold Dispatch.add
  cases howner : table.entries.lookup key with
  | none =>
    rw [howner] at hkey
    refine ⟨?_, fun other => ?_, fun other => ?_⟩
    · have hfresh : key ∉ table.entries.map (·.1) := by
        intro hmem
        obtain ⟨entry, hentry, rfl⟩ := List.mem_map.mp hmem
        have hapart := List.lookup_eq_none_iff.mp howner entry hentry
        simp at hapart
      rw [List.map_append, List.nodup_append]
      refine ⟨h.keys_nodup, by simp, fun a ha b hb hab => hfresh ?_⟩
      obtain rfl : b = key := by simpa using hb
      exact hab ▸ ha
    · rw [List.lookup_append, List.lookup_append, h.lookup_eq other]
    · rw [h.mem_clashes, lost_append_iff]
      constructor
      · exact .inl
      · rintro (hlost | ⟨rfl, owner, hsome, -⟩)
        · exact hlost
        · simp [← hkey] at hsome
  | some owner =>
    rw [howner] at hkey
    -- the owner keeps the key, so no lookup changes
    have hlookup : ∀ other, table.entries.lookup other =
        (claims ++ [(key, handler)]).lookup other := by
      intro other
      rw [h.lookup_eq other]
      by_cases hother : other = key
      · rw [hother, lookup_append_of_some hkey.symm, ← hkey]
      · rw [lookup_append_of_ne hother]
    dsimp only
    split
    next hsame =>
      refine ⟨h.keys_nodup, hlookup, fun other => ?_⟩
      rw [h.mem_clashes, lost_append_iff]
      constructor
      · exact .inl
      · rintro (hlost | ⟨rfl, claimed, hclaimed, hne⟩)
        · exact hlost
        · rw [← hkey] at hclaimed
          cases hclaimed
          exact absurd (by simpa using hsame) hne
    next hother =>
      refine ⟨h.keys_nodup, hlookup, fun other => ?_⟩
      rw [List.mem_append, h.mem_clashes, lost_append_iff]
      refine or_congr_right ?_
      constructor
      · intro hmem
        obtain rfl : other = key := by simpa using hmem
        exact ⟨rfl, owner, hkey.symm, by simpa using hother⟩
      · rintro ⟨rfl, -⟩
        simp

theorem settles_foldl (claims : List (String × String)) :
    (claims.foldl Dispatch.addClaim ⟨[], []⟩).Settles claims := by
  induction claims using List.reverseRecOn with
  | nil => exact ⟨by simp, by simp, by simp⟩
  | append_singleton claims claim ih =>
    rw [List.foldl_append]
    exact ih.add claim.1 claim.2

/-- Whether a text calls two operations. -/
def IsShared (byPath : Bool) (operations : List Operation) (key : String) : Prop :=
  ∃ a ∈ operations, ∃ b ∈ operations, a ≠ b ∧ IsKey byPath a key ∧ IsKey byPath b key

/-- If handlers have different names, a claim is lost exactly when operations share its key. -/
theorem lost_iff_isShared (distinct : (operations.map handlerName).Nodup) :
    (∃ handler, (key, handler) ∈ claims byPath operations ∧
        (claims byPath operations).lookup key ≠ some handler) ↔
      IsShared byPath operations key := by
  constructor
  · rintro ⟨handler, hmem, hlost⟩
    obtain ⟨owner, howner⟩ := isSome_lookup_of_mem hmem
    obtain ⟨a, ha, hkeyA, rfl⟩ := mem_claims.mp hmem
    obtain ⟨b, hb, hkeyB, rfl⟩ := mem_claims.mp (mem_of_lookup howner)
    refine ⟨a, ha, b, hb, ?_, hkeyA, hkeyB⟩
    rintro rfl
    exact hlost howner
  · rintro ⟨a, ha, b, hb, hne, hkeyA, hkeyB⟩
    have hnames : handlerName a ≠ handlerName b := fun hsame =>
      hne (List.inj_on_of_nodup_map distinct ha hb hsame)
    have hclaimA := mem_claims.mpr ⟨a, ha, hkeyA, rfl⟩
    have hclaimB := mem_claims.mpr ⟨b, hb, hkeyB, rfl⟩
    by_cases howner : (claims byPath operations).lookup key = some (handlerName a)
    · refine ⟨handlerName b, hclaimB, ?_⟩
      rw [howner]
      simpa using hnames
    · exact ⟨handlerName a, hclaimA, howner⟩

/-- What a dispatch table is for: each key of an operation leads to its handler, and every key is
one of an operation. -/
structure Dispatches (byPath : Bool) (operations : List Operation)
    (table : List (String × String)) : Prop where
  keys_nodup : (table.map (·.1)).Nodup
  lookup_key : ∀ operation ∈ operations, ∀ key, IsKey byPath operation key →
    table.lookup key = some (handlerName operation)
  key_of_mem : ∀ key handler, (key, handler) ∈ table →
    ∃ operation ∈ operations, IsKey byPath operation key ∧ handlerName operation = handler

/-- A table is made exactly when no claim is lost, and then it dispatches. -/
theorem dispatches_of_ok {method : Method} {table : List (String × String)}
    (h : dispatchKeys method operations byPath = .ok table) :
    Dispatches byPath operations table := by
  have hsettles := settles_foldl (claims byPath operations)
  rw [← foldl_addOperation] at hsettles
  unfold dispatchKeys at h
  dsimp only at h
  split at h
  next hnone =>
    cases h
    refine ⟨hsettles.keys_nodup, fun operation hoperation key hkey => ?_,
      fun key handler hmem => ?_⟩
    · have hclaim := mem_claims.mpr ⟨operation, hoperation, hkey, rfl⟩
      rw [hsettles.lookup_eq]
      by_contra hlost
      have hclash := (hsettles.mem_clashes key).mpr ⟨_, hclaim, hlost⟩
      simp [hnone] at hclash
    · have hfound := lookup_of_mem hsettles.keys_nodup hmem
      rw [hsettles.lookup_eq] at hfound
      exact mem_claims.mp (mem_of_lookup hfound)
  · cases h

/-- The keys that a refusal names, if handlers have different names. -/
theorem dispatchKeys_eq_error {method : Method} {failure : Failure}
    (distinct : (operations.map handlerName).Nodup) :
    dispatchKeys method operations byPath = .error failure ↔
      ∃ keys, failure = .duplicateSelectors method keys ∧ keys ≠ [] ∧
        keys.Pairwise (fun a b => a < b) ∧ ∀ key, key ∈ keys ↔ IsShared byPath operations key := by
  have hsettles := settles_foldl (claims byPath operations)
  rw [← foldl_addOperation] at hsettles
  have hshared : ∀ key, key ∈ (operations.foldl (Dispatch.addOperation byPath) ⟨[], []⟩).clashes ↔
      IsShared byPath operations key := fun key =>
    (hsettles.mem_clashes key).trans (lost_iff_isShared distinct)
  unfold dispatchKeys
  generalize (operations.foldl (Dispatch.addOperation byPath) ⟨[], []⟩) = table at hshared ⊢
  dsimp only
  split
  next hnone =>
    constructor
    · intro h
      cases h
    · rintro ⟨keys, -, hne, -, hmem⟩
      obtain ⟨key, hkey⟩ := List.exists_mem_of_ne_nil keys hne
      have hclash := (hshared key).mpr ((hmem key).mp hkey)
      simp [hnone] at hclash
  next hne =>
    have hlisted : ∀ key,
        key ∈ table.clashes.eraseDups.mergeSort (fun a b => a ≤ b) ↔
          IsShared byPath operations key := by
      intro key
      rw [List.mem_mergeSort, List.mem_eraseDups]
      exact hshared key
    constructor
    · intro h
      cases h
      refine ⟨_, rfl, ?_, ascending_mergeSort_eraseDups _, hlisted⟩
      obtain ⟨key, hkey⟩ := List.exists_mem_of_ne_nil _ hne
      exact List.ne_nil_of_mem ((hlisted key).mpr ((hshared key).mp hkey))
    · rintro ⟨keys, rfl, -, hascending, hmem⟩
      have hsame : table.clashes.eraseDups.mergeSort (fun a b => a ≤ b) = keys :=
        (ascending_mergeSort_eraseDups _).eq_of_mem_iff hascending fun key =>
          (hlisted key).trans (hmem key).symm
      rw [hsame]

/-- What stands in a generic module for a method: one handler for each operation and the table that
leads to them. -/
structure Serves (byPath : Bool) (entry : Method × List Operation) (view : MethodView) :
    Prop where
  method_eq : view.method = entry.1
  handlers_eq : view.handlers = entry.2.map HandlerView.of
  dispatches : Dispatches byPath entry.2 view.dispatch

theorem serves_of_ok {entry : Method × List Operation} {view : MethodView}
    (h : MethodView.of entry.1 entry.2 byPath = .ok view) : Serves byPath entry view := by
  simp only [MethodView.of, bind_eq_ok, pure_eq_ok] at h
  obtain ⟨table, htable, rfl⟩ := h
  exact ⟨rfl, rfl, dispatches_of_ok htable⟩

section Rendered

variable {collection : Collection} {modules : Modules} {document : Document} {text : String}

theorem renderGeneric_eq_ok :
    renderGeneric collection modules byPath document = .ok text ↔
      (collection.operations.map handlerName).Nodup ∧
      ∃ views version types,
        collection.mapM (fun entry => MethodView.of entry.1 entry.2 byPath) = .ok views ∧
        documentVersion document = .ok version ∧
        importedTypes collection.operations = .ok types ∧
        text = genericHead version modules types ++ String.join (views.map MethodView.render) ++
          genericDispatch ++ String.join (views.map MethodView.renderCoroutine) := by
  unfold renderGeneric
  split
  next hnone =>
    rw [repeated_eq_nil_iff] at hnone
    simp only [bind_eq_ok, pure_eq_ok, hnone, true_and]
    constructor
    · rintro ⟨views, hviews, version, hversion, types, htypes, rfl⟩
      exact ⟨views, version, types, hviews, hversion, htypes, rfl⟩
    · rintro ⟨views, version, types, hviews, hversion, htypes, rfl⟩
      exact ⟨views, hviews, version, hversion, types, htypes, rfl⟩
  next hne =>
    refine iff_of_false (fun h => by cases h) ?_
    rintro ⟨hnodup, -⟩
    exact hne (repeated_eq_nil_iff.mpr hnodup)

theorem serves_of_mapM {views : List MethodView}
    (h : collection.mapM (fun entry => MethodView.of entry.1 entry.2 byPath) = .ok views) :
    List.Forall₂ (Serves byPath) collection views :=
  (mapM_eq_ok.mp h).imp fun _ _ hview => serves_of_ok hview

/-- A rendered module has handlers of different names and serves every method. -/
theorem serves_of_renderGeneric
    (h : renderGeneric collection modules byPath document = .ok text) :
    (collection.operations.map handlerName).Nodup ∧
    ∃ views version types, List.Forall₂ (Serves byPath) collection views ∧
      text = genericHead version modules types ++ String.join (views.map MethodView.render) ++
        genericDispatch ++ String.join (views.map MethodView.renderCoroutine) := by
  obtain ⟨hnodup, views, version, types, hviews, -, -, htext⟩ := renderGeneric_eq_ok.mp h
  exact ⟨hnodup, views, version, types, serves_of_mapM hviews, htext⟩

end Rendered

/-- In a rendered generic module no two operations have the same handler, and the table of each
method leads from the keys of its operations to their handlers and from nothing else to anything.
If handlers have different names, a table is refused exactly when two operations share a key, and
the refusal lists all such keys in ascending order. -/
theorem dispatch_complete (collection : Collection) (modules : Modules) (byPath : Bool)
    (document : Document) :
    (∀ text, renderGeneric collection modules byPath document = .ok text →
      (collection.operations.map handlerName).Nodup ∧
      ∃ views version types, List.Forall₂ (Serves byPath) collection views ∧
        text = genericHead version modules types ++
          String.join (views.map MethodView.render) ++ genericDispatch ++
          String.join (views.map MethodView.renderCoroutine)) ∧
    ∀ (method : Method) (operations : List Operation), (operations.map handlerName).Nodup →
      ((∃ keys, dispatchKeys method operations byPath = .error (.duplicateSelectors method keys)) ↔
        ∃ key, IsShared byPath operations key) ∧
      ∀ failure, dispatchKeys method operations byPath = .error failure →
        ∃ keys, failure = .duplicateSelectors method keys ∧
          keys.Pairwise (fun a b => a < b) ∧
          ∀ key, key ∈ keys ↔ IsShared byPath operations key := by
  refine ⟨fun text h => serves_of_renderGeneric h, fun method operations distinct => ⟨?_, ?_⟩⟩
  · constructor
    · rintro ⟨keys, h⟩
      obtain ⟨keys', hkeys', hne, -, hmem⟩ := (dispatchKeys_eq_error distinct).mp h
      cases hkeys'
      obtain ⟨key, hkey⟩ := List.exists_mem_of_ne_nil keys hne
      exact ⟨key, (hmem key).mp hkey⟩
    · rintro ⟨key, hkey⟩
      cases hresult : dispatchKeys method operations byPath with
      | error failure =>
        obtain ⟨keys, rfl, -⟩ := (dispatchKeys_eq_error distinct).mp hresult
        exact ⟨keys, rfl⟩
      | ok table =>
        -- one entry of the table would have to lead to two handlers
        obtain ⟨a, ha, b, hb, hne, hkeyA, hkeyB⟩ := hkey
        have htable := dispatches_of_ok hresult
        have hsame := (htable.lookup_key a ha key hkeyA).symm.trans
          (htable.lookup_key b hb key hkeyB)
        have hnames : handlerName a = handlerName b := by simpa using hsame
        exact absurd (List.inj_on_of_nodup_map distinct ha hb hnames) hne
  · intro failure h
    obtain ⟨keys, hfailure, -, hascending, hmem⟩ := (dispatchKeys_eq_error distinct).mp h
    exact ⟨keys, hfailure, hascending, hmem⟩

/-- Two operations, one of which has the id of the other as its selector. -/
def crossingReads : List Operation := [
  sampleOperation .get "/allocation/\x7btenant\x7d/bucket"
    [.literal "allocation", .placeholder "tenant", .literal "bucket"] "get_bucket" "bucket",
  sampleOperation .get "/allocation/\x7btenant\x7d/get_bucket"
    [.literal "allocation", .placeholder "tenant", .literal "get_bucket"] "get_get_bucket"
    "get_bucket"]

theorem renderGeneric_buckets :
    ∃ text, renderGeneric bucketCollection ⟨"runtime", "types"⟩ true bucketDocument =
      .ok text :=
  ⟨_, eq_ok_value _ (by decide +kernel)⟩

/-- Buckets are found under all keys, and a selector that is the id of another operation is
refused. -/
theorem dispatch_complete_buckets :
    (∃ text, renderGeneric bucketCollection ⟨"runtime", "types"⟩ true bucketDocument = .ok text ∧
      (bucketCollection.operations.map handlerName).Nodup ∧
      ∃ views version types, List.Forall₂ (Serves true) bucketCollection views ∧
        text = genericHead version ⟨"runtime", "types"⟩ types ++
          String.join (views.map MethodView.render) ++ genericDispatch ++
          String.join (views.map MethodView.renderCoroutine)) ∧
    (crossingReads.map handlerName).Nodup ∧
    ∃ keys, dispatchKeys .get crossingReads true = .error (.duplicateSelectors .get keys) := by
  have h := dispatch_complete bucketCollection ⟨"runtime", "types"⟩ true bucketDocument
  obtain ⟨text, htext⟩ := renderGeneric_buckets
  have hdistinct : (crossingReads.map handlerName).Nodup := by decide +kernel
  refine ⟨⟨text, htext, h.1 text htext⟩, hdistinct, ?_⟩
  refine (h.2 .get crossingReads hdistinct).1.mpr ⟨"get_bucket", ?_⟩
  exact ⟨_, List.mem_cons_self, _, List.mem_cons_of_mem _ List.mem_cons_self, by decide,
    .inr (.inl rfl), .inl rfl⟩

end ClientGen.Client
