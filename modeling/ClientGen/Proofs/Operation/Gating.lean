import ClientGen.Proofs.Document.Pruning
import ClientGen.Proofs.Operation.Prepared
import ClientGen.Proofs.PathTemplate

/-!
Kinds that are not asked for. Preparation leaves out the paths that start with the name of such a
kind between slashes. A path that names the kind otherwise, alone or without exactly one slash
before it, stays, and its operations are collected.
-/
namespace ClientGen.Operation

open Outcome Update

variable {features : List String} {document updated : Document} {template : PathTemplate}
  {name : String} {kind : Kind}

theorem pathStart_toList (kind : Kind) (rest : List Char) :
    (pathStart kind).toList ++ rest = '/' :: kind.name.toList ++ '/' :: rest := by
  simp [pathStart, String.toList_append]

theorem kind_of_startsWith (hstart : Text.startsWith name (pathStart kind) = true)
    (hparse : PathTemplate.parse name = .ok template) :
    template.firstLiteral? = some kind.name := by
  obtain ⟨rest, hrest⟩ := Text.startsWith_iff.mp hstart
  rw [pathStart_toList] at hrest
  have hliteral := PathTemplate.firstLiteral?_of_word hrest kind.name_plain kind.name_ne_nil hparse
  rw [hliteral, String.ofList_toList]

/-- A path of a kind is left out exactly when the kind is disabled and the path starts with it. -/
theorem isPruned_iff_of_kind (hparse : PathTemplate.parse name = .ok template)
    (hkind : template.kind name = .ok kind) : isPruned features name = true ↔
      kind ∈ disabled features ∧ Text.startsWith name (pathStart kind) = true := by
  rw [isPruned_iff]
  constructor
  · rintro ⟨other, hother, hstart⟩
    have hliteral := kind_of_startsWith hstart hparse
    rw [PathTemplate.kind_eq_ok.mp hkind, Option.some.injEq] at hliteral
    obtain rfl := Kind.name_injective hliteral
    exact ⟨hother, hstart⟩
  · rintro ⟨hdisabled, hstart⟩
    exact ⟨kind, hdisabled, hstart⟩

theorem startsWith_of_render (hkind : template.kind name = .ok kind)
    (hrender : template.render = name) (hlength : 1 < template.length) :
    Text.startsWith name (pathStart kind) = true := by
  rcases PathTemplate.render_of_firstLiteral? (PathTemplate.kind_eq_ok.mp hkind) with h | h
  · omega
  · rw [← hrender]
    exact h.2

/-- Which paths of a kind stay when a document is prepared, and which operations of kinds that are
not asked for can be collected afterwards: only those whose paths do not start with the kind between
slashes. -/
theorem mem_paths_iff_of_kind (hu : update features document = .ok updated) :
    ∃ before after, paths document = .ok before ∧ paths updated = .ok after ∧
      (∀ name template kind, Scalar.text name ∈ before.map (·.1) →
        PathTemplate.parse name = .ok template → template.kind name = .ok kind →
        (Scalar.text name ∈ after.map (·.1) ↔
          ¬(kind ∈ disabled features ∧ Text.startsWith name (pathStart kind) = true)) ∧
        (template.render = name → 1 < template.length →
          (Scalar.text name ∈ after.map (·.1) ↔ kind ∉ disabled features))) ∧
      ∀ idCollection collection, collect updated idCollection = .ok collection →
        ∀ operation ∈ collection.operations, operation.kind ∈ disabled features →
          Text.startsWith operation.path (pathStart operation.kind) = false := by
  obtain ⟨before, after, hbefore, hafter, hkeys⟩ := mem_keys_iff_of_update hu
  refine ⟨before, after, hbefore, hafter, ?_, ?_⟩
  · intro name template kind hmem hparse hkind
    have hstays : Scalar.text name ∈ after.map (·.1) ↔
        ¬(kind ∈ disabled features ∧ Text.startsWith name (pathStart kind) = true) := by
      rw [hkeys, ← isPruned_iff_of_kind hparse hkind, Bool.not_eq_true]
      exact and_iff_right hmem
    refine ⟨hstays, fun hrender hlength => ?_⟩
    rw [hstays]
    simp [startsWith_of_render hkind hrender hlength]
  · intro idCollection collection hcollect operation hoperation hdisabled
    obtain ⟨-, item, raw, horigin⟩ := origin_of_collect hcollect hoperation
    obtain ⟨members, hmembers, hitem⟩ := horigin.path
    cases hafter.symm.trans hmembers
    have hextracted := extracted_of_extract horigin.extracted
    have hkey : Scalar.text operation.path ∈ after.map (·.1) := List.mem_map_of_mem hitem
    have hstays := ((hkeys operation.path).mp hkey).2
    rw [← Bool.not_eq_true,
      isPruned_iff_of_kind hextracted.template_eq hextracted.kind_eq] at hstays
    rw [← Bool.not_eq_true]
    exact fun hstart => hstays ⟨hdisabled, hstart⟩

/-- Managers, and their limits under a path without a slash before it. -/
def managerDocument : Document := .object [
  (.text "paths", .object [
    (.text "/manage", readItem [pathParameter "manager"]),
    (.text "manage/\x7bmanager\x7d/limit", readItem [pathParameter "manager"])])]

def managerPrepared : Document := value (Update.update [] managerDocument) (by decide +kernel)

theorem update_managerDocument : Update.update [] managerDocument = .ok managerPrepared :=
  eq_ok_value _ _

def managerReads : List Operation := [
  { sampleOperation .get "/manage" [.literal "manage"] "get_manage" "manage" with
    requiresToken := true
    kind := .manage },
  { sampleOperation .get "manage/\x7bmanager\x7d/limit"
      [.literal "manage", .placeholder "manager", .literal "limit"] "get_manage_limit_by_manager"
      "manage-limit" with
    requiresToken := true
    kind := .manage }]

theorem collect_managerPrepared : collect managerPrepared "ChildList" =
    .ok [(.get, managerReads), (.delete, []), (.post, []), (.put, [])] := by
  have hreads : collectMethod managerPrepared "ChildList" .get = .ok managerReads :=
    collectMethod_of_ordered managerReads (by decide +kernel) (by decide +kernel)
      (by decide +kernel)
  refine collect_of_methods ?_ ?_ hreads ?_ ?_ ?_
  all_goals decide +kernel

theorem mem_paths_iff_of_kind_manager :
    Update.update [] managerDocument = .ok managerPrepared ∧
    ∃ before after, paths managerDocument = .ok before ∧ paths managerPrepared = .ok after ∧
      (∀ name template kind, Scalar.text name ∈ before.map (·.1) →
        PathTemplate.parse name = .ok template → template.kind name = .ok kind →
        (Scalar.text name ∈ after.map (·.1) ↔
          ¬(kind ∈ disabled [] ∧ Text.startsWith name (pathStart kind) = true)) ∧
        (template.render = name → 1 < template.length →
          (Scalar.text name ∈ after.map (·.1) ↔ kind ∉ disabled []))) ∧
      ∀ idCollection collection, collect managerPrepared idCollection = .ok collection →
        ∀ operation ∈ collection.operations, operation.kind ∈ disabled [] →
          Text.startsWith operation.path (pathStart operation.kind) = false :=
  ⟨update_managerDocument, mem_paths_iff_of_kind update_managerDocument⟩

/-- Operations of a kind that was not asked for are collected: their paths name it alone, or without
a slash before it. -/
theorem collected_of_disabled_kind :
    Update.update [] managerDocument = .ok managerPrepared ∧
    collect managerPrepared "ChildList" =
      .ok [(.get, managerReads), (.delete, []), (.post, []), (.put, [])] ∧
    ∀ operation ∈ managerReads, operation.kind ∈ disabled [] := by
  refine ⟨update_managerDocument, collect_managerPrepared, ?_⟩
  simp [managerReads, mem_disabled_iff, Kind.optional]

end ClientGen.Operation
