import ClientGen.Proofs.Document.Preparation

/-!
Which paths preparation leaves out: those that start with the name of a kind that is not asked for.
-/
namespace ClientGen.Update

open Outcome

variable {features : List String} {paths kept prepared : Members}

theorem isPruned_iff {path : String} : isPruned features path = true ↔
    ∃ kind ∈ disabled features, Text.startsWith path (pathStart kind) = true := by
  simp [isPruned]

theorem mem_disabled_iff {kind : Kind} :
    kind ∈ disabled features ↔ kind ∈ Kind.optional ∧ kind.name ∉ features := by
  simp [disabled]

/-- Whether a member of the paths stays. -/
def stays (features : List String) (path : Scalar × Document) : Bool :=
  match path.1 with
  | .text path => !isPruned features path
  | _ => true

theorem stays_text {name : String} {item : Document} :
    stays features (.text name, item) = !isPruned features name := rfl

theorem stays_congr {path path' : Scalar × Document} (h : path.1 = path'.1) :
    stays features path = stays features path' := by
  simp only [stays, h]

/-- All keys are texts. -/
def Named (paths : Members) : Prop := ∀ path ∈ paths, ∃ name, path.1 = .text name

theorem all_text_iff : (paths.all fun path => (Document.scalar path.1).text?.isSome) = true ↔
    Named paths := by
  rw [List.all_eq_true]
  refine forall₂_congr fun path _ => ?_
  obtain ⟨key, item⟩ := path
  cases key <;> simp [Document.text?]

theorem prune_eq_ok : prune features paths = .ok kept ↔
    kept = paths.filter (stays features) ∧ (disabled features ≠ [] → Named paths) := by
  unfold prune
  by_cases hnone : disabled features = []
  · have hall : paths.filter (stays features) = paths := by
      rw [List.filter_eq_self]
      intro path _
      obtain ⟨key, item⟩ := path
      cases key <;> simp [stays, isPruned, hnone]
    simp [hnone, hall, eq_comm]
  · have hsome : (disabled features).isEmpty = false := by simpa using hnone
    simp only [hsome, Bool.false_eq_true, if_false]
    split
    next hnamed =>
      rw [all_text_iff] at hnamed
      constructor
      · intro h
        cases h
        exact ⟨rfl, fun _ => hnamed⟩
      · rintro ⟨rfl, -⟩
        rfl
    next hnamed =>
      rw [all_text_iff] at hnamed
      constructor
      · intro h
        cases h
      · rintro ⟨-, h⟩
        exact absurd (h hnone) hnamed

theorem named_of_prune (h : prune features paths = .ok kept) (hkept : Named kept) :
    Named paths := by
  obtain ⟨rfl, hnamed⟩ := prune_eq_ok.mp h
  by_cases hnone : disabled features = []
  · intro path hpath
    refine hkept path (List.mem_filter.mpr ⟨hpath, ?_⟩)
    obtain ⟨key, item⟩ := path
    cases key <;> simp [stays, isPruned, hnone]
  · exact hnamed hnone

theorem updatePath_key {path path' : Scalar × Document} (h : updatePath path = .ok path') :
    path'.1 = path.1 := by
  obtain ⟨name, template, item, hname, -, -, rfl⟩ := updatePath_eq_ok.mp h
  exact hname.symm

theorem named_of_mapM (h : kept.mapM updatePath = .ok prepared) : Named kept := by
  intro path hpath
  obtain ⟨path', -, hpath'⟩ := exists_mem_of_mapM h hpath
  obtain ⟨name, template, item, hname, -⟩ := updatePath_eq_ok.mp hpath'
  exact ⟨name, hname⟩

theorem mapM_updatePath_keys (h : kept.mapM updatePath = .ok prepared) :
    prepared.map (·.1) = kept.map (·.1) := by
  have hall := mapM_eq_ok.mp h
  clear h
  induction hall with
  | nil => rfl
  | cons head _ ih => simp [updatePath_key head, ih]

theorem paths_eq_of_update {document updated : Document}
    (h : update features document = .ok updated) :
    ∃ paths prepared : Members, Operation.paths document = .ok paths ∧ Named paths ∧
      Operation.paths updated = .ok prepared ∧
      (paths.filter (stays features)).mapM updatePath = .ok prepared := by
  obtain ⟨members, paths, kept, prepared, info, hmembers, hpaths, hkept, hprepared, -, hupdated⟩ :=
    update_eq_ok.mp h
  have hafter : Operation.paths updated = .ok prepared := by
    subst hupdated
    refine paths_of_untie rfl ?_
    rw [get?_paths_put]
    rfl
  have hnamed := named_of_prune hkept (named_of_mapM hprepared)
  obtain ⟨rfl, -⟩ := prune_eq_ok.mp hkept
  exact ⟨paths, prepared, paths_of_untie hmembers hpaths, hnamed, hafter, hprepared⟩

/-- The paths of a prepared document are those that stay. -/
theorem mem_keys_iff_of_update {document updated : Document}
    (h : update features document = .ok updated) :
    ∃ paths prepared : Members, Operation.paths document = .ok paths ∧
      Operation.paths updated = .ok prepared ∧
      ∀ name, Scalar.text name ∈ prepared.map (·.1) ↔
        Scalar.text name ∈ paths.map (·.1) ∧ isPruned features name = false := by
  obtain ⟨paths, prepared, hpaths, -, hprepared, hmapM⟩ := paths_eq_of_update h
  refine ⟨paths, prepared, hpaths, hprepared, fun name => ?_⟩
  rw [mapM_updatePath_keys hmapM]
  simp only [List.mem_map, List.mem_filter]
  constructor
  · rintro ⟨⟨key, item⟩, ⟨hmem, hstays⟩, rfl⟩
    exact ⟨⟨_, hmem, rfl⟩, by simpa [stays_text] using hstays⟩
  · rintro ⟨⟨⟨key, item⟩, hmem, rfl⟩, hstays⟩
    exact ⟨_, ⟨hmem, by simpa [stays_text] using hstays⟩, rfl⟩

end ClientGen.Update
