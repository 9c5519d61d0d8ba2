import ClientGen.Proofs.Client.Rendering
import ClientGen.Proofs.Generation.Stages

/-!
The order of members never reaches a generated client.
-/
namespace ClientGen.Generation

open Document Operation

/-- Documents that are the same up to the order of members, in which no operation has two responses
of the same status, have the same operations up to the order of their responses, or cannot be
collected both. If the version is no collection, the generated modules are the same texts. -/
theorem generation_of_reordered {document document' : Document}
    (hd : Reordered document document') (once : StatusesOnce document) (settings : Settings) :
    Agree (List.Forall₂ fun entry entry' =>
        entry.1 = entry'.1 ∧ List.Forall₂ Alike entry.2 entry'.2)
      (Operation.collect document settings.idCollectionSchema)
      (Operation.collect document' settings.idCollectionSchema) ∧
    ((∃ version, (document.get "info").get "version" = .scalar version) →
      Agree Eq (generic document settings).result (generic document' settings).result ∧
      Agree Eq (wrapped document settings).result (wrapped document' settings).result) := by
  have hcollect := agree_collect hd once settings.idCollectionSchema
  refine ⟨hcollect, fun hversion => ⟨?_, ?_⟩⟩
  · rw [result_generic, result_generic]
    exact hcollect.bind fun _ _ halike =>
      Client.agree_renderGeneric _ hd hversion halike settings.pathAliases
  · rw [result_wrapped, result_wrapped]
    refine hcollect.bind fun collection collection' halike => ?_
    refine Client.agree_renderWrapped _ hd hversion ?_
    rw [← Client.sort_core, ← Client.sort_core, ← Client.operations_coreCollection,
      ← Client.operations_coreCollection, Client.coreCollection_of_alike halike]

theorem reordered_swap (name name' : String) (hnames : name ≠ name') {a a' b b' : Document}
    (ha : Reordered a a') (hb : Reordered b b') :
    Reordered (.object [(.text name, a), (.text name', b)])
      (.object [(.text name', b'), (.text name, a')]) :=
  .of_upToOrder (by simpa [Members.Distinct] using hnames)
    ⟨[(.text name', b), (.text name, a)], .swap _ _ _, .cons ⟨rfl, hb⟩ (.cons ⟨rfl, ha⟩ .nil)⟩

theorem reordered_single {key : Scalar} {a a' : Document} (ha : Reordered a a') :
    Reordered (.object [(key, a)]) (.object [(key, a')]) :=
  .of_upToOrder (List.nodup_singleton _) (.of_forall₂ (.cons ⟨rfl, ha⟩ .nil))

def emptyResponse (description : String) : Document :=
  .object [(.text "description", .text description)]

/-- Buckets can be read and volumes deleted. -/
def storageDocument : Document := .object [
  (.text "info", .object [(.text "version", .text "1.0")]),
  (.text "paths", .object [
    (.text "/allocation/\x7btenant\x7d/bucket", .object [(.text "get", .object [
      (.text "operationId", .text "get_bucket"),
      (.text "responses", .object [
        (.text "200", emptyResponse "ok"), (.text "204", emptyResponse "none")])])]),
    (.text "/allocation/\x7btenant\x7d/volume", .object [
      (.text "delete", sampleRaw "delete_volume")])])]

/-- The same with the members of several objects in the other order. -/
def storageReordered : Document := .object [
  (.text "paths", .object [
    (.text "/allocation/\x7btenant\x7d/volume", .object [
      (.text "delete", sampleRaw "delete_volume")]),
    (.text "/allocation/\x7btenant\x7d/bucket", .object [(.text "get", .object [
      (.text "responses", .object [
        (.text "204", emptyResponse "none"), (.text "200", emptyResponse "ok")]),
      (.text "operationId", .text "get_bucket")])])]),
  (.text "info", .object [(.text "version", .text "1.0")])]

theorem reordered_storage : Reordered storageDocument storageReordered := by
  have hresponse : ∀ description, Reordered (emptyResponse description)
      (emptyResponse description) := fun _ => reordered_single (.scalar _)
  have hresponses := reordered_swap "200" "204" (by decide) (hresponse "ok") (hresponse "none")
  have hbucket := reordered_swap "operationId" "responses" (by decide)
    (.scalar (.text "get_bucket")) hresponses
  refine reordered_swap "info" "paths" (by decide) (.refl ⟨rfl, rfl⟩) ?_
  exact reordered_swap _ _ (by decide) (reordered_single hbucket) (.refl ⟨rfl, rfl⟩)

theorem statusesOnce_storage : StatusesOnce storageDocument := by
  have h : ∀ method ∈ Method.supported,
      ∀ raw ∈ (rawOf storageDocument method).toOption.getD [], (statuses raw.2).Nodup := by
    decide +kernel
  intro method hmethod raws hraws raw hraw
  have hmem := h method hmethod raw
  rw [hraws] at hmem
  exact hmem hraw

theorem generation_of_reordered_storage :
    Reordered storageDocument storageReordered ∧ StatusesOnce storageDocument ∧
    (generic storageDocument {}).result.toOption.isSome ∧
    Agree (List.Forall₂ fun entry entry' =>
        entry.1 = entry'.1 ∧ List.Forall₂ Alike entry.2 entry'.2)
      (Operation.collect storageDocument ({} : Settings).idCollectionSchema)
      (Operation.collect storageReordered ({} : Settings).idCollectionSchema) ∧
    Agree Eq (generic storageDocument {}).result (generic storageReordered {}).result ∧
    Agree Eq (wrapped storageDocument {}).result (wrapped storageReordered {}).result := by
  have h := generation_of_reordered reordered_storage statusesOnce_storage {}
  refine ⟨reordered_storage, statusesOnce_storage, ?_, h.1, h.2 ⟨.text "1.0", rfl⟩⟩
  decide +kernel

end ClientGen.Generation
