import ClientGen.Document.Web.Update
import ClientGen.Proofs.Document.Pruning
import Mathlib.Data.List.Forall2

/-!
Preparing a document that was prepared before. What a first preparation wrote stays as it is, so two
preparations are one for the features that both ask for, and only the note is written twice. That
holds for trees: a web can keep what was written for a path that is left out later.
-/
namespace ClientGen.Update

open Outcome

variable {features others : List String} {document updated : Document}
  {template : PathTemplate} {method : String}

theorem withAuthorization_fixed {operation operation' : Members}
    (h : withAuthorization operation = .ok operation') (name : String) (value : Document)
    (different : name ≠ "parameters") :
    withAuthorization (Members.put operation' name value) =
      .ok (Members.put operation' name value) := by
  obtain ⟨parameters, hparameters, header, hheader, hauthorization⟩ := withAuthorization_header h
  have hget : Members.get? (Members.put operation' name value) "parameters" =
      some (.array parameters) := by
    rw [Members.get?_put_of_ne _ _ different, hparameters]
  refine withAuthorization_eq_ok.mpr ⟨parameters, by rw [hget]; rfl, ?_⟩
  rw [if_pos ⟨header, hheader, hauthorization⟩, Members.put_of_get? hget]

theorem updateOperation_fixed {operation operation' : Members}
    (h : updateOperation template method operation = .ok operation') :
    updateOperation template method operation' = .ok operation' := by
  simp only [updateOperation, bind_eq_ok, pure_eq_ok] at h ⊢
  obtain ⟨authorized, hauthorized, id, hid, rfl⟩ := h
  refine ⟨_, withAuthorization_fixed hauthorized _ _ (by decide), id, hid, ?_⟩
  exact Members.put_put_same _ _ _ _

/-- Whether preparing the operation of one method would change nothing. -/
def Fixed (template : PathTemplate) (item : Members) (method : String) : Prop :=
  updateMethod template item method = .ok item

theorem updateMethod_fixed {item item' : Members}
    (h : updateMethod template item method = .ok item') : Fixed template item' method := by
  rcases updateMethod_eq_ok.mp h with ⟨hnone, rfl⟩ | ⟨operation, operation', -, hupdate, rfl⟩
  · exact h
  · refine updateMethod_eq_ok.mpr (.inr ⟨operation', operation', ?_, updateOperation_fixed hupdate,
      (Members.put_put_same _ _ _ _).symm⟩)
    exact operation?_of_untie (Members.get?_put_same _ _ _) rfl

theorem fixed_of_get?_eq {item item' : Members} (h : Fixed template item method)
    (hget : Members.get? item' method = Members.get? item method) :
    Fixed template item' method := by
  have hsame := operation?_congr hget
  refine updateMethod_eq_ok.mpr ?_
  rcases updateMethod_eq_ok.mp h with ⟨hnone, -⟩ | ⟨operation, operation', hsome, hupdate, hput⟩
  · exact .inl ⟨hsame.trans hnone, rfl⟩
  · refine .inr ⟨operation, operation', hsame.trans hsome, hupdate,
      (Members.put_of_get? ?_).symm⟩
    rw [hget, hput, Members.get?_put_same]

/-- The methods that had their turn stay fixed while others have theirs. -/
theorem foldlM_updateMethod_fixed (done : List String) {names : List String}
    {item item' : Members} (h : names.foldlM (updateMethod template) item = .ok item')
    (hdone : ∀ name ∈ done, Fixed template item name) :
    ∀ name ∈ done ++ names, Fixed template item' name := by
  induction names generalizing item done with
  | nil =>
    cases h
    simpa using hdone
  | cons name rest ih =>
    rw [List.foldlM_cons, bind_eq_ok] at h
    obtain ⟨next, hnext, h⟩ := h
    have hdone' : ∀ other ∈ done ++ [name], Fixed template next other := by
      intro other hother
      by_cases hsame : name = other
      · exact hsame ▸ updateMethod_fixed hnext
      · have hbefore : other ∈ done := by
          simpa [Ne.symm hsame] using hother
        exact fixed_of_get?_eq (hdone other hbefore) (updateMethod_get?_of_ne hnext hsame)
    simpa using ih _ h hdone'

theorem foldlM_of_fixed {names : List String} {item : Members}
    (h : ∀ name ∈ names, Fixed template item name) :
    names.foldlM (updateMethod template) item = .ok item := by
  induction names with
  | nil => rfl
  | cons name rest ih =>
    rw [List.foldlM_cons, h name List.mem_cons_self]
    exact ih fun other hother => h other (List.mem_cons_of_mem _ hother)

theorem updateItem_fixed {item item' : Document} (h : updateItem template item = .ok item') :
    updateItem template item' = .ok item' := by
  rcases updateItem_eq_ok.mp h with ⟨hother, rfl⟩ | ⟨members, members', -, hmembers, rfl⟩
  · exact h
  · have hfixed := foldlM_updateMethod_fixed [] hmembers (by simp)
    exact updateItem_eq_ok.mpr (.inr ⟨members', members', rfl, foldlM_of_fixed hfixed, rfl⟩)

theorem updatePath_fixed {path path' : Scalar × Document} (h : updatePath path = .ok path') :
    updatePath path' = .ok path' := by
  obtain ⟨name, template, item, -, htemplate, hitem, rfl⟩ := updatePath_eq_ok.mp h
  exact updatePath_eq_ok.mpr ⟨name, template, item, rfl, htemplate, updateItem_fixed hitem, rfl⟩

theorem mapM_updatePath_fixed {paths prepared : Members}
    (h : paths.mapM updatePath = .ok prepared) :
    prepared.mapM updatePath = .ok prepared := by
  refine mapM_eq_ok.mpr (List.forall₂_same.mpr fun path hpath => ?_)
  obtain ⟨source, -, hsource⟩ := exists_of_mem_mapM h hpath
  exact updatePath_fixed hsource

/-- Preparing the paths that stay gives what stays of the prepared paths. -/
theorem mapM_updatePath_filter {paths prepared : Members}
    (h : paths.mapM updatePath = .ok prepared) (features : List String) :
    (paths.filter (stays features)).mapM updatePath =
      .ok (prepared.filter (stays features)) := by
  refine mapM_eq_ok.mpr (List.rel_filter (fun path path' hpath => ?_) (mapM_eq_ok.mp h))
  exact Eq.congr_left (stays_congr (updatePath_key hpath).symm)

/-- What is left out for features that two lists share is what one of the lists leaves out. -/
theorem stays_inter (path : Scalar × Document) :
    stays (features ∩ others) path = (stays features path && stays others path) := by
  obtain ⟨key, item⟩ := path
  cases key with
  | text name =>
    have hpruned : isPruned (features ∩ others) name =
        (isPruned features name || isPruned others name) := by
      rw [Bool.eq_iff_iff, Bool.or_eq_true]
      simp only [isPruned_iff, mem_disabled_iff, List.mem_inter_iff, not_and_or]
      grind
    simp [stays, hpruned]
  | _ => rfl

theorem noted_ne_empty (description : Document) : noted description ≠ "" := by
  unfold noted
  split
  · decide
  · simp [note]

/-- A description with a note gets another one in a new line. -/
theorem noted_noted (description : Document) :
    noted (.text (noted description)) = noted description ++ "\n" ++ note := by
  have hvoid : (Document.text (noted description)).isVoid = false := by
    simp [Document.isVoid, Scalar.isVoid, noted_ne_empty]
  rw [noted, hvoid]
  rfl

theorem updateInfo_eq_ok {info info' : Document} : updateInfo info = .ok info' ↔
    ∃ fields, info.untie = .object fields ∧ info' = .object (Members.put fields "description"
      (.text (noted ((Members.get? fields "description").getD .null)))) := by
  unfold updateInfo
  constructor
  · intro h
    split at h
    next fields hfields =>
      cases h
      exact ⟨fields, hfields, rfl⟩
    · cases h
  · rintro ⟨fields, hfields, rfl⟩
    simp only [hfields]

theorem put_info_put_paths (members : Members) (paths info paths' info' : Document) :
    Members.put (Members.put (Members.put (Members.put members "paths" paths) "info" info)
      "paths" paths') "info" info' =
      Members.put (Members.put members "paths" paths') "info" info' := by
  have hpaths : Members.has (Members.put members "paths" paths) "paths" = true := by
    rw [Members.has, Members.get?_put_same]
    rfl
  rw [Members.put_put_of_ne (by decide) hpaths, Members.put_put_same, Members.put_put_same]

/-- The same documents but for the description, to which the second adds a line with the note. -/
def NotedAgain (once twice : Document) : Prop :=
  ∃ members info description, once = .object members ∧
    Members.get? members "info" = some (.object info) ∧
    Members.get? info "description" = some (.text description) ∧
    twice = .object (Members.put members "info"
      (.object (Members.put info "description" (.text (description ++ "\n" ++ note)))))

/-- Preparing a document that was prepared leaves out paths and writes one more note. -/
theorem update_of_prepared {prepared : Members} (hfixed : prepared.mapM updatePath = .ok prepared)
    (members fields : Members) (description : Document) (features : List String) :
    update features (.object (Members.put (Members.put members "paths" (.object prepared)) "info"
      (.object (Members.put fields "description" (.text (noted description)))))) =
      .ok (.object (Members.put
        (Members.put members "paths" (.object (prepared.filter (stays features)))) "info"
        (.object (Members.put fields "description"
          (.text (noted description ++ "\n" ++ note)))))) := by
  have hpruned : prune features prepared = .ok (prepared.filter (stays features)) :=
    prune_eq_ok.mpr ⟨rfl, fun _ => named_of_mapM hfixed⟩
  refine update_eq_ok.mpr ⟨_, prepared, _, _, _, rfl, ?_, hpruned,
    mapM_updatePath_filter hfixed features,
    updateInfo_eq_ok.mpr ⟨Members.put fields "description" (.text (noted description)), ?_, rfl⟩,
    ?_⟩
  · rw [get?_paths_put]
    rfl
  · rw [Members.get?_put_of_ne _ _ (by decide), Members.get?_put_same]
    rfl
  · rw [put_info_put_paths, Members.get?_put_same, Members.put_put_same, Option.getD_some,
      noted_noted]

/-- If a document can be prepared for some features, then what comes out can be prepared for others,
and the document can be prepared for those that are in both lists. The results are the same, members
in the same order, but for one more note in the former. -/
theorem update_update (h : update features document = .ok updated) (others : List String) :
    ∃ twice once, update others updated = .ok twice ∧
      update (features ∩ others) document = .ok once ∧ NotedAgain once twice := by
  obtain ⟨members, paths, kept, prepared, info, hmembers, hpaths, hkept, hprepared, hinfo, rfl⟩ :=
    update_eq_ok.mp h
  obtain ⟨fields, hfields, rfl⟩ := updateInfo_eq_ok.mp hinfo
  rw [Members.get?_put_of_ne _ _ (by decide)] at hfields
  have hnamed : Named paths := named_of_prune hkept (named_of_mapM hprepared)
  obtain ⟨rfl, -⟩ := prune_eq_ok.mp hkept
  have hpruned : prune (features ∩ others) paths =
      .ok ((paths.filter (stays features)).filter (stays others)) := by
    rw [prune_eq_ok, List.filter_filter]
    refine ⟨List.filter_congr fun path _ => ?_, fun _ => hnamed⟩
    rw [stays_inter, Bool.and_comm]
  have honce : update (features ∩ others) document = .ok (.object (Members.put
      (Members.put members "paths" (.object (prepared.filter (stays others)))) "info"
      (.object (Members.put fields "description"
        (.text (noted ((Members.get? fields "description").getD .null))))))) := by
    refine update_eq_ok.mpr ⟨members, paths, _, _, _, hmembers, hpaths, hpruned,
      mapM_updatePath_filter hprepared others, updateInfo_eq_ok.mpr ⟨fields, ?_, rfl⟩, rfl⟩
    rw [Members.get?_put_of_ne _ _ (by decide), hfields]
  have htwice := update_of_prepared (mapM_updatePath_fixed hprepared) members fields
    ((Members.get? fields "description").getD .null) others
  refine ⟨_, _, htwice, honce, _, _, _, rfl, Members.get?_put_same _ _ _,
    Members.get?_put_same _ _ _, ?_⟩
  rw [Members.put_put_same, Members.put_put_same]

/-- Limits of tenants, one for each kind of path that has them. -/
def limitDocument : Document := .object [
  (.text "paths", .object [
    (.text "/manage/\x7btenant\x7d/limit", .object [(.text "get", .object [])]),
    (.text "/allocation/\x7btenant\x7d/limit", .object [(.text "get", .object [])]),
    (.text "/robot/\x7btenant\x7d/limit", .object [(.text "get", .object [])])])]

def limitPrepared : Document := value (update ["manage"] limitDocument) (by decide +kernel)

theorem update_update_limits :
    update ["manage"] limitDocument = .ok limitPrepared ∧
    ∃ twice once, update ["robot"] limitPrepared = .ok twice ∧
      update (["manage"] ∩ ["robot"]) limitDocument = .ok once ∧ NotedAgain once twice := by
  have h : update ["manage"] limitDocument = .ok limitPrepared := eq_ok_value _ _
  exact ⟨h, update_update h ["robot"]⟩

theorem NotedAgain.get?_eq {once twice : Document} (h : NotedAgain once twice) {name : String}
    (hname : name ≠ "info") : twice.get? name = once.get? name := by
  obtain ⟨members, info, description, rfl, -, -, rfl⟩ := h
  rw [Document.get?_object, Document.get?_object, Members.get?_put_of_ne _ _ (Ne.symm hname)]

/-- An operation that stands on its own and, through a second link to it, at a path. -/
def linkedLimit : Web where
  cells := #[
    .object [(.text "x-limit", .cell 1), (.text "paths", .cell 4)],
    .object [(.text "responses", .cell 2)],
    .object [(.text "200", .cell 3)],
    .object [(.text "description", .scalar (.text "ok"))],
    .object [(.text "/manage/\x7bmanager\x7d/limit", .cell 5)],
    .object [(.text "get", .cell 1)]]
  root := .cell 0

/-- What the web shows after it was prepared for `manage` and then for no feature. -/
def linkedTwice : Document :=
  value ((linkedLimit.update ["manage"] >>= Web.update []).map Web.document) (by decide +kernel)

/-- What the web shows after it was prepared for the features in both lists. -/
def linkedOnce : Document :=
  value ((linkedLimit.update (["manage"] ∩ [])).map Web.document) (by decide +kernel)

/-- Preparing a web twice is not preparing it once: the operation on its own keeps the header and
the id that it was given at the path that is left out later. -/
theorem not_notedAgain_linkedLimit :
    (linkedLimit.update ["manage"] >>= Web.update []).map Web.document = .ok linkedTwice ∧
    (linkedLimit.update (["manage"] ∩ [])).map Web.document = .ok linkedOnce ∧
    ¬ NotedAgain linkedOnce linkedTwice := by
  have hdiffer : linkedTwice.get? "x-limit" ≠ linkedOnce.get? "x-limit" := by decide +kernel
  exact ⟨eq_ok_value _ _, eq_ok_value _ _, fun h => hdiffer (h.get?_eq (by decide))⟩

end ClientGen.Update
