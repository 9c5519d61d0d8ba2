import ClientGen.Proofs.Document.Chain
import ClientGen.Proofs.Document.Composition
import ClientGen.Proofs.Operation.Collection

/-!
Documents that differ only in how many paths they have, as documents prepared for fewer and for more
features do. What a reference leads to in both is the same, unless it is the paths themselves.
-/
namespace ClientGen

open Outcome

namespace Reference

variable {document value target : Document} {fuel : Nat} {seen : List String}

/-- Following ends at a value that is no reference, or goes on from what the reference leads to. -/
theorem of_follow (h : follow document fuel seen value = .ok target) :
    (next? value = none ∧ target = value) ∨
      ∃ fuel' reference next, fuel = fuel' + 1 ∧ next? value = some reference ∧
        Pointer.resolve reference document = .ok next ∧
        follow document fuel' (seen ++ [reference]) next = .ok target := by
  unfold follow at h
  split at h
  next hnone =>
    cases h
    exact .inl ⟨hnone, rfl⟩
  next reference hnext =>
    split at h
    · cases h
    · split at h
      · cases h
      next next hresolved =>
        split at h
        · cases h
        next fuel' => exact .inr ⟨fuel', reference, next, rfl, hnext, hresolved, h⟩

end Reference

namespace PathTemplate

/-- Whether a path is written as its template is: one slash before each segment, none behind. -/
def IsNormal (name : String) : Prop := (parse name).map render = .ok name

instance (name : String) : Decidable (IsNormal name) :=
  inferInstanceAs (Decidable ((parse name).map render = .ok name))

theorem isNormal_iff {name : String} :
    IsNormal name ↔ ∃ template, parse name = .ok template ∧ template.render = name := by
  unfold IsNormal
  cases parse name <;> simp [Except.map]

theorem IsNormal.head?_eq {name : String} (h : IsNormal name) : name.toList.head? = some '/' := by
  obtain ⟨template, -, rfl⟩ := isNormal_iff.mp h
  simp [render, String.toList_append]

end PathTemplate

namespace Document

/-- Members of two documents that are the same but for the paths, of which the second has more. -/
structure Enlarged (paths paths' members members' : Members) : Prop where
  sublist : paths.Sublist paths'
  once : Members.Distinct paths'
  normal : ∀ path ∈ paths', ∃ name, path.1 = .text name ∧ PathTemplate.IsNormal name
  get?_paths : Members.get? members "paths" = some (.object paths)
  get?_paths' : Members.get? members' "paths" = some (.object paths')
  get?_other : ∀ name, name ≠ "paths" → Members.get? members name = Members.get? members' name

/-- The same values, or the paths. -/
inductive Grown (paths paths' : Members) : Document → Document → Prop
  | same (value : Document) : Grown paths paths' value value
  | paths : Grown paths paths' (.object paths) (.object paths')

variable {paths paths' members members' : Members} {value value' target target' : Document}
  {name reference token : String}

namespace Enlarged

theorem get?_eq_none (h : Enlarged paths paths' members members')
    (hname : name.toList.head? ≠ some '/') :
    Members.get? paths name = none ∧ Members.get? paths' name = none := by
  have hkeys : ∀ path ∈ paths', path.1 ≠ .text name := by
    intro path hpath hkey
    obtain ⟨other, hother, hnormal⟩ := h.normal path hpath
    rw [hkey] at hother
    cases hother
    exact hname hnormal.head?_eq
  exact ⟨Members.get?_eq_none fun path hpath => hkeys path (h.sublist.subset hpath),
    Members.get?_eq_none hkeys⟩

theorem get?_path (h : Enlarged paths paths' members members')
    (hvalue : Members.get? paths name = some value) : Members.get? paths' name = some value := by
  have hdistinct : Members.Distinct paths := h.once.sublist (h.sublist.map _)
  have hmem := (Members.get?_eq_some_iff hdistinct).mp hvalue
  exact (Members.get?_eq_some_iff h.once).mpr (h.sublist.subset hmem)

theorem get?_eq (h : Enlarged paths paths' members members')
    (hvalue : Grown paths paths' value value') (hname : name.toList.head? ≠ some '/') :
    value.get? name = value'.get? name := by
  cases hvalue with
  | same value => rfl
  | paths =>
    obtain ⟨hnone, hnone'⟩ := h.get?_eq_none hname
    rw [Document.get?_object, Document.get?_object, hnone, hnone']

theorem step_object (hstep : Pointer.step reference token (.object members) = .ok target) :
    Members.get? members token = some target := by
  simp only [Pointer.step, untie_object] at hstep
  split at hstep
  next found hfound =>
    cases hstep
    exact hfound
  · cases hstep

/-- A first step leads to the paths of both documents or to the same value. -/
theorem grown_step_root (h : Enlarged paths paths' members members')
    (hstep : Pointer.step reference token (.object members) = .ok target)
    (hstep' : Pointer.step reference token (.object members') = .ok target') :
    Grown paths paths' target target' := by
  have hget := step_object hstep
  have hget' := step_object hstep'
  by_cases htoken : token = "paths"
  · subst htoken
    rw [h.get?_paths] at hget
    rw [h.get?_paths'] at hget'
    cases hget
    cases hget'
    exact .paths
  · rw [h.get?_other token htoken, hget'] at hget
    cases hget
    exact .same _

theorem grown_step (h : Enlarged paths paths' members members')
    (hvalue : Grown paths paths' value value')
    (hstep : Pointer.step reference token value = .ok target)
    (hstep' : Pointer.step reference token value' = .ok target') :
    Grown paths paths' target target' := by
  cases hvalue with
  | same value =>
    cases hstep.symm.trans hstep'
    exact .same _
  | paths =>
    have hget := h.get?_path (step_object hstep)
    rw [step_object hstep'] at hget
    cases hget
    exact .same _

theorem grown_foldlM (h : Enlarged paths paths' members members') {tokens : List String}
    (hvalue : Grown paths paths' value value')
    (hsteps : tokens.foldlM (fun value token => Pointer.step reference token value) value =
      .ok target)
    (hsteps' : tokens.foldlM (fun value token => Pointer.step reference token value) value' =
      .ok target') : Grown paths paths' target target' := by
  induction tokens generalizing value value' with
  | nil =>
    cases hsteps
    cases hsteps'
    exact hvalue
  | cons token rest ih =>
    rw [List.foldlM_cons, bind_eq_ok] at hsteps hsteps'
    obtain ⟨next, hnext, hsteps⟩ := hsteps
    obtain ⟨next', hnext', hsteps'⟩ := hsteps'
    exact ih (h.grown_step hvalue hnext hnext') hsteps hsteps'

/-- A pointer has at least one token, so it never leads to the whole document. -/
theorem tokens?_ne_nil {tokens : List String} (h : Pointer.tokens? reference = some tokens) :
    tokens ≠ [] := by
  rw [Pointer.tokens?, Option.map_eq_some_iff] at h
  obtain ⟨rest, -, rfl⟩ := h
  simp

theorem grown_pointer (h : Enlarged paths paths' members members')
    (htarget : Pointer.resolve reference (.object members) = .ok target)
    (htarget' : Pointer.resolve reference (.object members') = .ok target') :
    Grown paths paths' target target' := by
  unfold Pointer.resolve at htarget htarget'
  cases htokens : Pointer.tokens? reference with
  | none => simp [htokens] at htarget
  | some tokens =>
    simp only [htokens] at htarget htarget'
    cases tokens with
    | nil => exact absurd rfl (tokens?_ne_nil htokens)
    | cons token rest =>
      rw [List.foldlM_cons, bind_eq_ok] at htarget htarget'
      obtain ⟨next, hnext, htarget⟩ := htarget
      obtain ⟨next', hnext', htarget'⟩ := htarget'
      exact h.grown_foldlM (h.grown_step_root hnext hnext') htarget htarget'

theorem next?_eq (h : Enlarged paths paths' members members')
    (hvalue : Grown paths paths' value value') :
    Reference.next? value = Reference.next? value' := by
  rw [Reference.next?, Reference.next?, h.get?_eq hvalue (by decide)]

/-- Following references as far as both documents allow. The number of steps that is left may
differ. -/
theorem grown_follow (h : Enlarged paths paths' members members') {fuel fuel' : Nat}
    {seen seen' : List String} (hvalue : Grown paths paths' value value')
    (htarget : Reference.follow (.object members) fuel seen value = .ok target)
    (htarget' : Reference.follow (.object members') fuel' seen' value' = .ok target') :
    Grown paths paths' target target' := by
  induction fuel using Nat.strongRecOn generalizing fuel' seen seen' value value' with
  | ind fuel ih =>
    rcases Reference.of_follow htarget with
      ⟨hnext, rfl⟩ | ⟨left, reference, next, rfl, hnext, hresolved, hfollowed⟩
    · rw [h.next?_eq hvalue] at hnext
      cases htarget'.symm.trans (Reference.follow_of_none hnext)
      exact hvalue
    · rw [h.next?_eq hvalue] at hnext
      rcases Reference.of_follow htarget' with
        ⟨hnone, -⟩ | ⟨left', reference', next', -, hnext', hresolved', hfollowed'⟩
      · cases hnext.symm.trans hnone
      · cases hnext.symm.trans hnext'
        exact ih left (Nat.lt_succ_self left) (h.grown_pointer hresolved hresolved') hfollowed
          hfollowed'

theorem grown_resolve (h : Enlarged paths paths' members members')
    (hvalue : Grown paths paths' value value')
    (htarget : Reference.resolve (.object members) value = .ok target)
    (htarget' : Reference.resolve (.object members') value' = .ok target') :
    Grown paths paths' target target' := by
  unfold Reference.resolve at htarget htarget'
  rw [← h.next?_eq hvalue] at htarget'
  split at htarget
  next hnone =>
    rw [if_pos hnone] at htarget'
    cases htarget
    cases htarget'
    exact hvalue
  next hsome =>
    rw [if_neg hsome] at htarget'
    exact h.grown_follow hvalue htarget htarget'

/-- Responses are read the same: the paths, read as a response, say nothing. -/
theorem read_eq (h : Enlarged paths paths' members members')
    (hvalue : Grown paths paths' value value') (idCollection : String) :
    ResponseType.read value idCollection = ResponseType.read value' idCollection := by
  cases hvalue with
  | same value => rfl
  | paths =>
    have hslash : "content".toList.head? ≠ some '/' ∧ "description".toList.head? ≠ some '/' := by
      decide
    obtain ⟨hcontent, hcontent'⟩ := h.get?_eq_none hslash.1
    obtain ⟨hdescription, hdescription'⟩ := h.get?_eq_none hslash.2
    simp [ResponseType.read, Content.of, get_object, hcontent, hcontent', hdescription,
      hdescription', isObject, isVoid, Scalar.isVoid]

end Enlarged

end Document

namespace Update

variable {features features' : List String} {document updated updated' : Document}

/-- A path that stays for some features stays when more are asked for. -/
theorem stays_mono (hsub : features ⊆ features') {path : Scalar × Document}
    (h : stays features path = true) : stays features' path = true := by
  obtain ⟨key, item⟩ := path
  cases key with
  | text name =>
    rw [stays_text, Bool.not_eq_true', ← Bool.not_eq_true] at h ⊢
    intro hpruned
    obtain ⟨kind, hkind, hstart⟩ := isPruned_iff.mp hpruned
    rw [mem_disabled_iff] at hkind
    exact h (isPruned_iff.mpr
      ⟨kind, mem_disabled_iff.mpr ⟨hkind.1, fun hmem => hkind.2 (hsub hmem)⟩, hstart⟩)
  | _ => rfl

theorem filter_stays_of_subset (hsub : features ⊆ features') (paths : Members) :
    (paths.filter (stays features')).filter (stays features) = paths.filter (stays features) := by
  rw [List.filter_filter]
  refine List.filter_congr fun path _ => ?_
  cases hstays : stays features path with
  | false => rfl
  | true => simp [stays_mono hsub hstays]

/-- A document whose paths are all written as their templates are. -/
def Normal (document : Document) : Prop :=
  ∀ paths : Members, Operation.paths document = .ok paths →
    ∀ name, Scalar.text name ∈ paths.map (·.1) → PathTemplate.IsNormal name

theorem normal_of_keys (names : List String)
    (hkeys : (Operation.paths document).map (List.map (·.1)) = .ok (names.map .text))
    (hnames : ∀ name ∈ names, PathTemplate.IsNormal name) : Normal document := by
  intro paths hpaths name hname
  rw [hpaths, Except.map, Except.ok.injEq] at hkeys
  rw [hkeys, List.mem_map] at hname
  obtain ⟨name', hmem, hsame⟩ := hname
  cases hsame
  exact hnames name hmem

/-- Preparing a document for more features gives the same document with more paths. -/
theorem enlarged_of_update (hsub : features ⊆ features') (once : document.keysOnce = true)
    (normal : Normal document) (hu : update features document = .ok updated)
    (hu' : update features' document = .ok updated') :
    ∃ paths' members members' : Members, updated = .object members ∧ updated' = .object members' ∧
      Document.Enlarged (paths'.filter (stays features)) paths' members members' := by
  obtain ⟨source, paths, kept, prepared, info, hsource, hpaths, hkept, hprepared, hinfo, rfl⟩ :=
    update_eq_ok.mp hu
  obtain ⟨_, _, kept', prepared', info', hsource', hpaths', hkept', hprepared', hinfo', rfl⟩ :=
    update_eq_ok.mp hu'
  cases hsource.symm.trans hsource'
  cases hpaths.symm.trans hpaths'
  have hbefore := paths_of_untie hsource hpaths
  have hnamed : Named paths := named_of_prune hkept' (named_of_mapM hprepared')
  obtain ⟨rfl, -⟩ := prune_eq_ok.mp hkept
  obtain ⟨rfl, -⟩ := prune_eq_ok.mp hkept'
  rw [Members.get?_put_of_ne _ _ (by decide)] at hinfo hinfo'
  cases hinfo.symm.trans hinfo'
  -- the paths that stay are prepared in the same way, whatever else stays
  have hfiltered := mapM_updatePath_filter hprepared' features
  rw [filter_stays_of_subset hsub] at hfiltered
  cases hprepared.symm.trans hfiltered
  have hkeys := mapM_updatePath_keys hprepared'
  refine ⟨prepared', _, _, rfl, rfl, List.filter_sublist, ?_, ?_, get?_paths_put _ _ _,
    get?_paths_put _ _ _, ?_⟩
  · have hdistinct : Members.Distinct (paths.filter (stays features')) :=
      (Operation.paths_distinct once hbefore).sublist (List.filter_sublist.map _)
    exact hdistinct.perm (.of_eq hkeys.symm)
  · intro path hpath
    have hkey : path.1 ∈ (paths.filter (stays features')).map (·.1) :=
      hkeys ▸ List.mem_map_of_mem hpath
    obtain ⟨original, horiginal, hsame⟩ := List.mem_map.mp hkey
    have hmem := (List.mem_filter.mp horiginal).1
    obtain ⟨name, hname⟩ := hnamed original hmem
    exact ⟨name, hsame ▸ hname, normal paths hbefore name (hname ▸ List.mem_map_of_mem hmem)⟩
  · intro name hname
    by_cases hinfo : name = "info"
    · rw [hinfo, Members.get?_put_same, Members.get?_put_same]
    · rw [Members.get?_put_of_ne _ _ (Ne.symm hinfo), Members.get?_put_of_ne _ _ (Ne.symm hinfo),
        Members.get?_put_of_ne _ _ (Ne.symm hname), Members.get?_put_of_ne _ _ (Ne.symm hname)]

end Update

end ClientGen
