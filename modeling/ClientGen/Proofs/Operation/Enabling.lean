import ClientGen.Document.Web.Update
import ClientGen.Proofs.Agreement
import ClientGen.Proofs.Document.Enabling
import ClientGen.Proofs.Operation.Gating

/-!
Asking for more features. The paths that come in addition stand, in the order of paths, before no
others than those of robots, and their selectors start with another letter than these. So the
operations that were there before keep their selectors, and with them their names.
-/
namespace ClientGen

open Outcome

namespace Kind

/-- Of an optional kind and another one that does not begin with a lesser letter, the first is
`manage` and the second `robot`. -/
theorem manage_robot_of_initial {kind other : Kind} (hkind : kind ∈ optional) (hne : kind ≠ other)
    (h : kind.name.toList.headD ' ' ≤ other.name.toList.headD ' ') :
    kind = .manage ∧ other = .robot := by
  revert hkind hne h
  cases kind <;> cases other <;> decide

theorem lower_name (kind : Kind) : Text.lower kind.name = kind.name := by
  cases kind <;> decide +kernel

end Kind

namespace PathTemplate

theorem render_of_kind {template : PathTemplate} {name : String} {kind : Kind}
    (hkind : template.kind name = .ok kind) :
    ∃ rest, template.render.toList = '/' :: kind.name.toList ++ rest := by
  rcases render_of_firstLiteral? (kind_eq_ok.mp hkind) with ⟨-, h⟩ | ⟨-, h⟩
  · exact ⟨[], by simp [h, String.toList_append]⟩
  · obtain ⟨rest, hrest⟩ := Text.startsWith_iff.mp h
    exact ⟨'/' :: rest, by simp [hrest, String.toList_append]⟩

end PathTemplate

namespace Selector

theorem of_kind {template : PathTemplate} {name : String} {kind : Kind}
    (hkind : template.kind name = .ok kind) (hplain : kind ≠ .allocation)
    (response : ResponseType) (wide : Bool) :
    ∃ rest, of template response wide = kind.name ++ rest := by
  obtain ⟨rest, rfl⟩ := PathTemplate.firstLiteral?_eq_some.mp (PathTemplate.kind_eq_ok.mp hkind)
  have hpart : part? wide (.literal kind.name) = some kind.name := by
    have hname : (kind.name == "allocation") = false := by
      cases kind <;> first | exact absurd rfl hplain | rfl
    simp only [part?, hname, Kind.lower_name, Bool.false_eq_true, if_false]
  rw [of, List.filterMap_cons, hpart, Operation.intercalate_cons_eq_join, String.append_assoc]
  exact ⟨_, rfl⟩

end Selector

namespace Operation

/-- An operation whose path is written as its template is, before its selector is settled. -/
structure Written (operation : Operation) : Prop where
  template_eq : PathTemplate.parse operation.path = .ok operation.template
  kind_eq : operation.template.kind operation.path = .ok operation.kind
  render_eq : operation.template.render = operation.path
  selector_eq : operation.selector = operation.defaultSelector

variable {features : List String}

/-- Paths of two kinds in ascending order begin with letters in ascending order. -/
theorem initial_le_of_path_lt {a b : Operation} (ha : Written a) (hb : Written b)
    (h : a.path < b.path) :
    a.kind.name.toList.headD ' ' ≤ b.kind.name.toList.headD ' ' := by
  obtain ⟨rest, hrest⟩ := PathTemplate.render_of_kind ha.kind_eq
  obtain ⟨rest', hrest'⟩ := PathTemplate.render_of_kind hb.kind_eq
  rw [ha.render_eq] at hrest
  rw [hb.render_eq] at hrest'
  obtain ⟨first, letters, hname⟩ := List.exists_cons_of_ne_nil a.kind.name_ne_nil
  obtain ⟨first', letters', hname'⟩ := List.exists_cons_of_ne_nil b.kind.name_ne_nil
  rw [String.lt_iff_toList_lt, hrest, hrest', hname, hname'] at h
  simp only [List.cons_append, List.cons_lt_cons_iff, lt_irrefl, false_or, true_and] at h
  rw [hname, hname']
  rcases h with h | ⟨h, -⟩
  · exact le_of_lt h
  · exact le_of_eq h

theorem not_append_lt (start rest : List Char) : ¬ start ++ rest < start := by
  induction start with
  | nil => simp
  | cons first start ih => simp [ih]

/-- Only operations on robots stay behind paths that are left out. -/
theorem kinds_of_pruned {a b : Operation} (ha : Written a) (hb : Written b)
    (h : a.path < b.path) (hpruned : Update.isPruned features a.path = true)
    (hstays : Update.isPruned features b.path = false) :
    a.kind = .manage ∧ b.kind = .robot := by
  have hdisabled := ((isPruned_iff_of_kind ha.template_eq ha.kind_eq).mp hpruned).1
  have hne : a.kind ≠ b.kind := by
    intro hsame
    have hnot : ¬ Text.startsWith b.path (Update.pathStart b.kind) = true := by
      intro hstart
      have hpruned' := (isPruned_iff_of_kind hb.template_eq hb.kind_eq).mpr
        ⟨hsame ▸ hdisabled, hstart⟩
      rw [hstays] at hpruned'
      cases hpruned'
    -- a path of the kind that stays is the kind alone, and no path of the kind is before that
    have hsingle : b.path = "/" ++ b.kind.name := by
      rcases PathTemplate.render_of_firstLiteral? (PathTemplate.kind_eq_ok.mp hb.kind_eq) with
        ⟨-, hrender⟩ | ⟨-, hstart⟩
      · rw [← hrender, hb.render_eq]
      · rw [hb.render_eq] at hstart
        exact absurd hstart hnot
    obtain ⟨rest, hrest⟩ := PathTemplate.render_of_kind ha.kind_eq
    rw [ha.render_eq, hsame] at hrest
    rw [String.lt_iff_toList_lt, hrest, hsingle, String.toList_append] at h
    exact not_append_lt _ _ h
  exact Kind.manage_robot_of_initial (Update.mem_disabled_iff.mp hdisabled).1 hne
    (initial_le_of_path_lt ha hb h)

/-- A path that is left out never takes the selector of one behind it that stays. -/
theorem selector_ne_of_pruned {a b : Operation} (ha : Written a) (hb : Written b)
    (h : a.path < b.path) (hpruned : Update.isPruned features a.path = true)
    (hstays : Update.isPruned features b.path = false) :
    b.selector ≠ a.selector ∧ b.selector ≠ a.wideSelector := by
  obtain ⟨hmanage, hrobot⟩ := kinds_of_pruned ha hb h hpruned hstays
  have hapart : ∀ wide, b.selector ≠ Selector.of a.template a.okResponse wide := by
    intro wide heq
    obtain ⟨rest, hrest⟩ := Selector.of_kind ha.kind_eq (by simp [hmanage]) a.okResponse wide
    obtain ⟨rest', hrest'⟩ := Selector.of_kind hb.kind_eq (by simp [hrobot]) b.okResponse false
    rw [hb.selector_eq, defaultSelector, hrest, hrest', hmanage, hrobot] at heq
    have hletters := congrArg String.toList heq
    simp [Kind.name] at hletters
  refine ⟨?_, hapart true⟩
  rw [ha.selector_eq]
  exact hapart false

/-- Operations that a client shows in the same way. -/
structure SameName (a b : Operation) : Prop where
  method_eq : a.method = b.method
  path_eq : a.path = b.path
  operationId_eq : a.operationId = b.operationId
  selector_eq : a.selector = b.selector
  wideSelector_eq : a.wideSelector = b.wideSelector

theorem SameName.settled {a b : Operation} (h : SameName a b) {taken taken' : List String}
    (htaken : a.selector ∈ taken ↔ b.selector ∈ taken') :
    SameName (settled taken a) (settled taken' b) := by
  by_cases hmem : a.selector ∈ taken
  · rw [settled_of_mem hmem, settled_of_mem (htaken.mp hmem)]
    exact ⟨h.method_eq, h.path_eq, h.operationId_eq, h.wideSelector_eq, h.wideSelector_eq⟩
  · rw [settled_of_not_mem hmem, settled_of_not_mem (mt htaken.mpr hmem)]
    exact h

/-- Operations that are left out do not show in the selectors of the others if they never take one
of those behind them. -/
theorem forall₂_widen_filter (keep : String → Bool) {operations operations' : List Operation}
    (h : List.Forall₂ SameName operations
      (operations'.filter fun operation => keep operation.path))
    (apart : operations'.Pairwise fun a b => keep a.path = false → keep b.path = true →
      b.selector ≠ a.selector ∧ b.selector ≠ a.wideSelector)
    {taken taken' : List String} (htaken : ∀ operation ∈ operations', keep operation.path = true →
      (operation.selector ∈ taken ↔ operation.selector ∈ taken')) :
    List.Forall₂ SameName (widen taken operations)
      ((widen taken' operations').filter fun operation => keep operation.path) := by
  induction operations' generalizing operations taken taken' with
  | nil =>
    cases h
    exact .nil
  | cons operation rest ih =>
    rw [List.pairwise_cons] at apart
    rw [widen_cons]
    have hselector : (settled taken' operation).selector = operation.selector ∨
        (settled taken' operation).selector = operation.wideSelector := by
      unfold settled
      split
      · exact .inr rfl
      · exact .inl rfl
    cases hkeep : keep operation.path with
    | false =>
      rw [List.filter_cons_of_neg (by simp [hkeep])] at h ⊢
      refine ih h apart.2 fun other hother hstays => ?_
      obtain ⟨hne, hwide⟩ := apart.1 other hother hkeep hstays
      have hfresh : other.selector ≠ (settled taken' operation).selector := by
        rcases hselector with hselector | hselector <;> rwa [hselector]
      rw [htaken other (List.mem_cons_of_mem _ hother) hstays, List.mem_cons]
      simp [hfresh]
    | true =>
      rw [List.filter_cons_of_pos (by simp [hkeep])] at h ⊢
      cases h with
      | @cons first _ operations _ hfirst hrest =>
        have hsettled : SameName (settled taken first) (settled taken' operation) := by
          refine hfirst.settled ?_
          rw [hfirst.selector_eq]
          exact htaken operation List.mem_cons_self hkeep
        rw [widen_cons]
        refine .cons hsettled (ih hrest apart.2 fun other hother hstays => ?_)
        rw [List.mem_cons, List.mem_cons, hsettled.selector_eq,
          htaken other (List.mem_cons_of_mem _ hother) hstays]

variable {document : Document} {idCollection : String} {method : Method}
  {members members' paths' : Members}

theorem written_of_extract {path : String} {raw : Document} {operation : Operation}
    (h : extract method path raw document idCollection = .ok operation)
    (normal : PathTemplate.IsNormal path) : Written operation := by
  have hextracted := extracted_of_extract h
  have hpath := hextracted.path_eq
  subst hpath
  obtain ⟨template, hparse, hrender⟩ := PathTemplate.isNormal_iff.mp normal
  cases hparse.symm.trans hextracted.template_eq
  exact ⟨hextracted.template_eq, hextracted.kind_eq, hrender, hextracted.selector_eq⟩

/-- Members of two documents, of which the first has those paths of the second that stay for some
features. -/
abbrev MorePaths (features : List String) (paths' members members' : Members) : Prop :=
  Document.Enlarged (paths'.filter (Update.stays features)) paths' members members'

namespace MorePaths

variable (h : MorePaths features paths' members members')

include h

theorem paths_eq :
    paths (.object members) = .ok (paths'.filter (Update.stays features)) ∧
      paths (.object members') = .ok paths' := by
  constructor
  · refine Update.paths_of_untie rfl ?_
    rw [h.get?_paths]
    rfl
  · refine Update.paths_of_untie rfl ?_
    rw [h.get?_paths']
    rfl

theorem responseTypes_eq {raw : Document} {types types' : List (Nat × ResponseType)}
    (htypes : responseTypes (.object members) idCollection raw = .ok types)
    (htypes' : responseTypes (.object members') idCollection raw = .ok types') :
    types = types' := by
  unfold responseTypes at htypes htypes'
  split at htypes
  · cases htypes
  next responses hresponses =>
    simp only [hresponses, bind_eq_ok, pure_eq_ok] at htypes htypes'
    obtain ⟨read, hread, rfl⟩ := htypes
    obtain ⟨read', hread', rfl⟩ := htypes'
    rw [mapM_ok_unique hread hread' ?_]
    rintro ⟨code, response⟩ type type' htype htype'
    simp only [bind_eq_ok] at htype htype'
    obtain ⟨status, hstatus, htype⟩ := htype
    obtain ⟨status', hstatus', htype'⟩ := htype'
    cases hstatus.symm.trans hstatus'
    cases status with
    | none => exact Except.ok.inj (htype.symm.trans htype')
    | some status =>
      simp only [bind_eq_ok, pure_eq_ok] at htype htype'
      obtain ⟨target, htarget, type, htype, rfl⟩ := htype
      obtain ⟨target', htarget', type', htype', rfl⟩ := htype'
      rw [h.read_eq (h.grown_resolve (.same response) htarget htarget')] at htype
      cases htype.symm.trans htype'
      rfl

theorem sameName_of_extract {path : String} {raw : Document} {a b : Operation}
    (ha : extract method path raw (.object members) idCollection = .ok a)
    (hb : extract method path raw (.object members') idCollection = .ok b) : SameName a b := by
  have hextracted := extracted_of_extract ha
  have hextracted' := extracted_of_extract hb
  have hid := hextracted.id_eq.symm.trans hextracted'.id_eq
  have htemplate := hextracted.template_eq.symm.trans hextracted'.template_eq
  obtain ⟨types, status, htypes, hleast⟩ := okResponse_of_extract ha
  obtain ⟨types', status', htypes', hleast'⟩ := okResponse_of_extract hb
  cases h.responseTypes_eq htypes htypes'
  have hresponse := hleast.symm.trans hleast'
  simp only [Option.some.injEq, Prod.mk.injEq] at hid hresponse
  rw [Except.ok.injEq] at htemplate
  refine ⟨?_, ?_, hid, ?_, ?_⟩
  · rw [hextracted.method_eq, hextracted'.method_eq]
  · rw [hextracted.path_eq, hextracted'.path_eq]
  · rw [hextracted.selector_eq, hextracted'.selector_eq, defaultSelector, defaultSelector,
      htemplate, hresponse.2]
  · rw [wideSelector, wideSelector, htemplate, hresponse.2]

theorem isRaw_iff {item target target' raw : Document}
    (htarget : Reference.resolve (.object members) item = .ok target)
    (htarget' : Reference.resolve (.object members') item = .ok target') :
    IsRaw (.object members) method item raw ↔ IsRaw (.object members') method item raw := by
  have hname : method.name.toList.head? ≠ some '/' := by
    cases method <;> decide
  have hget := h.get?_eq (h.grown_resolve (.same item) htarget htarget') hname
  constructor
  · rintro ⟨found, hfound, hraw, hobject⟩
    cases htarget.symm.trans hfound
    exact ⟨target', htarget', hget ▸ hraw, hobject⟩
  · rintro ⟨found, hfound, hraw, hobject⟩
    cases htarget'.symm.trans hfound
    exact ⟨target, htarget, hget ▸ hraw, hobject⟩

/-- The operation objects of the paths that stay are those of the document with less paths. -/
theorem mem_rawOf_iff {raws raws' : List (Scalar × Document)}
    (hraws : rawOf (.object members) method = .ok raws)
    (hraws' : rawOf (.object members') method = .ok raws') {key : Scalar} {raw : Document} :
    (key, raw) ∈ raws ↔ (key, raw) ∈ raws' ∧ Update.stays features (key, raw) = true := by
  obtain ⟨hpaths, hpaths'⟩ := h.paths_eq
  constructor
  · intro hmem
    obtain ⟨found, item, hfound, hitem, hraw⟩ := (mem_rawOf hraws).mp hmem
    cases hpaths.symm.trans hfound
    obtain ⟨hitem', hstays⟩ := List.mem_filter.mp hitem
    obtain ⟨target, htarget⟩ := resolve_of_rawOf hraws hpaths hitem
    obtain ⟨target', htarget'⟩ := resolve_of_rawOf hraws' hpaths' hitem'
    exact ⟨(mem_rawOf hraws').mpr ⟨paths', item, hpaths', hitem',
      (h.isRaw_iff htarget htarget').mp hraw⟩, hstays⟩
  · rintro ⟨hmem, hstays⟩
    obtain ⟨found, item, hfound, hitem', hraw⟩ := (mem_rawOf hraws').mp hmem
    cases hpaths'.symm.trans hfound
    have hitem := List.mem_filter.mpr ⟨hitem', (Update.stays_congr rfl).trans hstays⟩
    obtain ⟨target, htarget⟩ := resolve_of_rawOf hraws hpaths hitem
    obtain ⟨target', htarget'⟩ := resolve_of_rawOf hraws' hpaths' hitem'
    exact (mem_rawOf hraws).mpr ⟨_, item, hpaths, hitem, (h.isRaw_iff htarget htarget').mpr hraw⟩

theorem normal_of_mem {raws : List (Scalar × Document)}
    (hraws : rawOf (.object members') method = .ok raws) {path : String} {raw : Document}
    (hmem : (.text path, raw) ∈ raws) : PathTemplate.IsNormal path := by
  obtain ⟨found, item, hfound, hitem, -⟩ := (mem_rawOf hraws).mp hmem
  cases h.paths_eq.2.symm.trans hfound
  obtain ⟨name, hname, hnormal⟩ := h.normal _ hitem
  cases hname
  exact hnormal

/-- Of one method, the operations in the order of their paths are those of the other document
without the ones whose paths are left out. -/
theorem forall₂_sources {raws raws' : List (Scalar × Document)} {sources sources' : List Operation}
    (hraws : rawOf (.object members) method = .ok raws)
    (hraws' : rawOf (.object members') method = .ok raws')
    (hsources : (raws.mapM fun raw =>
      extractAt method raw.1 raw.2 (.object members) idCollection) = .ok sources)
    (hsources' : (raws'.mapM fun raw =>
      extractAt method raw.1 raw.2 (.object members') idCollection) = .ok sources') :
    List.Forall₂ SameName (sortByPath sources)
      ((sortByPath sources').filter fun source => !Update.isPruned features source.path) := by
  have hdistinct := rawOf_keys_nodup_of_distinct h.paths_eq.1
    (h.once.sublist (h.sublist.map _)) hraws
  have hdistinct' := rawOf_keys_nodup_of_distinct h.paths_eq.2 h.once hraws'
  refine forall₂_of_ascending (fun _ _ hsame => hsame.path_eq) ?_ ?_
    (sortByPath_strict (sources_paths_nodup_of_keys hsources hdistinct))
    ((sortByPath_strict (sources_paths_nodup_of_keys hsources' hdistinct')).filter _)
  · intro source hsource
    obtain ⟨raw, hraw, hextract, -⟩ :=
      extract_of_mem_sources hsources ((sortByPath_perm sources).mem_iff.mp hsource)
    obtain ⟨hraw', hstays⟩ := (h.mem_rawOf_iff hraws hraws').mp hraw
    obtain ⟨source', hsource', hextract'⟩ := exists_mem_of_mapM hsources' hraw'
    have hsame := h.sameName_of_extract hextract hextract'
    refine ⟨source', List.mem_filter.mpr ⟨(sortByPath_perm sources').mem_iff.mpr hsource', ?_⟩,
      hsame⟩
    rw [← hsame.path_eq]
    exact hstays
  · intro source' hsource'
    obtain ⟨hsource', hstays⟩ := List.mem_filter.mp hsource'
    obtain ⟨raw, hraw', hextract', -⟩ :=
      extract_of_mem_sources hsources' ((sortByPath_perm sources').mem_iff.mp hsource')
    have hraw := (h.mem_rawOf_iff hraws hraws').mpr ⟨hraw', hstays⟩
    obtain ⟨source, hsource, hextract⟩ := exists_mem_of_mapM hsources hraw
    exact ⟨source, (sortByPath_perm sources).mem_iff.mpr hsource,
      h.sameName_of_extract hextract hextract'⟩

/-- Every operation that is collected is collected with the same name where there are more paths. -/
theorem exists_sameName {operations operations' : List Operation}
    (hcollect : collectMethod (.object members) idCollection method = .ok operations)
    (hcollect' : collectMethod (.object members') idCollection method = .ok operations')
    {operation : Operation} (hmem : operation ∈ operations) :
    ∃ operation' ∈ operations', SameName operation operation' := by
  obtain ⟨raws, sources, hraws, hsources, -, rfl⟩ := collectMethod_eq_ok.mp hcollect
  obtain ⟨raws', sources', hraws', hsources', -, rfl⟩ := collectMethod_eq_ok.mp hcollect'
  have hwritten : ∀ source ∈ sortByPath sources', Written source := by
    intro source hsource
    obtain ⟨raw, hraw, hextract, -⟩ :=
      extract_of_mem_sources hsources' ((sortByPath_perm sources').mem_iff.mp hsource)
    exact written_of_extract hextract (h.normal_of_mem hraws' hraw)
  have hdistinct' := rawOf_keys_nodup_of_distinct h.paths_eq.2 h.once hraws'
  have hascending := sortByPath_strict (sources_paths_nodup_of_keys hsources' hdistinct')
  have hapart : (sortByPath sources').Pairwise fun a b =>
      (!Update.isPruned features a.path) = false → (!Update.isPruned features b.path) = true →
        b.selector ≠ a.selector ∧ b.selector ≠ a.wideSelector := by
    refine hascending.imp_of_mem fun {a b} ha hb hless hpruned hstays => ?_
    exact selector_ne_of_pruned (hwritten a ha) (hwritten b hb) hless (by simpa using hpruned)
      (by simpa using hstays)
  have hwiden : List.Forall₂ SameName (widen [] (sortByPath sources))
      ((widen [] (sortByPath sources')).filter fun operation =>
        !Update.isPruned features operation.path) :=
    forall₂_widen_filter (fun path => !Update.isPruned features path)
      (h.forall₂_sources hraws hraws' hsources hsources') hapart fun _ _ _ => Iff.rfl
  obtain ⟨operation', hmem', hsame⟩ := exists_right_of_mem hwiden ((sort_perm _).mem_iff.mp hmem)
  exact ⟨operation', (sort_perm _).mem_iff.mpr (List.mem_filter.mp hmem').1, hsame⟩

end MorePaths

variable {features' : List String} {updated updated' : Document}
  {collection collection' : Collection}

/-- If a document of distinct keys whose paths are written as their templates are is prepared for
some features and for more, and the operations of both results can be collected, then each that is
collected for the fewer features is collected for the others with the same method, path, id and
selector. -/
theorem collected_of_more_features (hsub : features ⊆ features') (once : document.keysOnce = true)
    (normal : Update.Normal document) (hu : Update.update features document = .ok updated)
    (hu' : Update.update features' document = .ok updated')
    (hc : collect updated idCollection = .ok collection)
    (hc' : collect updated' idCollection = .ok collection') :
    ∀ operation ∈ collection.operations, ∃ operation' ∈ collection'.operations,
      operation'.method = operation.method ∧ operation'.path = operation.path ∧
        operation'.operationId = operation.operationId ∧
        operation'.selector = operation.selector := by
  intro operation hmem
  obtain ⟨paths', members, members', rfl, rfl, h⟩ :=
    Update.enlarged_of_update hsub once normal hu hu'
  obtain ⟨method, operations, hentry, hoperation⟩ := mem_operations.mp hmem
  obtain ⟨hmethod, hcollect⟩ := collectMethod_of_mem hc hentry
  obtain ⟨⟨method', operations'⟩, hentry', hsame⟩ : ∃ entry ∈ collection', entry.1 = method := by
    rw [← collection_methods hc'] at hmethod
    exact List.mem_map.mp hmethod
  cases hsame
  have hcollect' := (collectMethod_of_mem hc' hentry').2
  obtain ⟨operation', hoperation', hname⟩ :=
    MorePaths.exists_sameName h hcollect hcollect' hoperation
  exact ⟨operation', mem_operations.mpr ⟨_, operations', hentry', hoperation'⟩,
    hname.method_eq.symm, hname.path_eq.symm, hname.operationId_eq.symm, hname.selector_eq.symm⟩

/-- Limits of tenants, those that managers set, and those of robots. -/
def limitDocument : Document := .object [
  (.text "paths", .object [
    (.text "/allocation/\x7btenant\x7d/limit", readItem [pathParameter "tenant"]),
    (.text "/manage/\x7btenant\x7d/limit", readItem [pathParameter "tenant"]),
    (.text "/robot/\x7btenant\x7d/limit", readItem [pathParameter "tenant"])])]

/-- The path of the limits of a kind, as preparation with an id leaves it. -/
def preparedLimit (kind : Kind) (id : String) : Scalar × Document :=
  (.text ("/" ++ kind.name ++ "/\x7btenant\x7d/limit"), .object [(.text "get", .object [
    (.text "parameters", .array [pathParameter "tenant", Update.authorization]),
    (.text "responses", .object [
      (.text "200", .object [(.text "description", .text "ok")])]),
    (.text "operationId", .text id)])])

def preparedLimits (paths : Members) : Document := .object [
  (.text "paths", .object paths),
  (.text "info", .object [(.text "description", .text Update.note)])]

def robotPrepared : Document := preparedLimits [
  preparedLimit .allocation "get_limit", preparedLimit .robot "get_robot_limit"]

def allPrepared : Document := preparedLimits [
  preparedLimit .allocation "get_limit", preparedLimit .manage "get_manage_limit",
  preparedLimit .robot "get_robot_limit"]

def limitRead (kind : Kind) (id selector : String) : Operation :=
  { sampleOperation .get ("/" ++ kind.name ++ "/\x7btenant\x7d/limit")
      [.literal kind.name, .placeholder "tenant", .literal "limit"] id selector with
    requiresToken := true
    kind := kind }

def robotLimits : List Operation := [
  limitRead .allocation "get_limit" "limit",
  limitRead .robot "get_robot_limit" "robot-limit"]

def allLimits : List Operation := [
  limitRead .allocation "get_limit" "limit",
  limitRead .manage "get_manage_limit" "manage-limit",
  limitRead .robot "get_robot_limit" "robot-limit"]

theorem collect_limits :
    collect robotPrepared "ChildList" =
      .ok [(.get, robotLimits), (.delete, []), (.post, []), (.put, [])] ∧
    collect allPrepared "ChildList" =
      .ok [(.get, allLimits), (.delete, []), (.post, []), (.put, [])] := by
  have hrobot : collectMethod robotPrepared "ChildList" .get = .ok robotLimits :=
    collectMethod_of_ordered robotLimits (by decide +kernel) (by decide +kernel) (by decide +kernel)
  have hall : collectMethod allPrepared "ChildList" .get = .ok allLimits :=
    collectMethod_of_ordered allLimits (by decide +kernel) (by decide +kernel) (by decide +kernel)
  refine ⟨collect_of_methods ?_ ?_ hrobot ?_ ?_ ?_, collect_of_methods ?_ ?_ hall ?_ ?_ ?_⟩
  all_goals decide +kernel

theorem collected_of_more_features_limits :
    limitDocument.keysOnce = true ∧ Update.Normal limitDocument ∧
    Update.update ["robot"] limitDocument = .ok robotPrepared ∧
    Update.update ["manage", "robot"] limitDocument = .ok allPrepared ∧
    ∀ operation ∈ robotLimits, ∃ operation' ∈ allLimits,
      operation'.method = operation.method ∧ operation'.path = operation.path ∧
        operation'.operationId = operation.operationId ∧
        operation'.selector = operation.selector := by
  have once : limitDocument.keysOnce = true := by decide +kernel
  have normal : Update.Normal limitDocument :=
    Update.normal_of_keys ["/allocation/\x7btenant\x7d/limit", "/manage/\x7btenant\x7d/limit",
      "/robot/\x7btenant\x7d/limit"] (by decide +kernel) (by decide +kernel)
  have hu : Update.update ["robot"] limitDocument = .ok robotPrepared := by decide +kernel
  have hu' : Update.update ["manage", "robot"] limitDocument = .ok allPrepared := by decide +kernel
  obtain ⟨hrobot, hall⟩ := collect_limits
  have hkept := collected_of_more_features (by simp) once normal hu hu' hrobot hall
  refine ⟨once, normal, hu, hu', ?_⟩
  simpa [Collection.operations] using hkept

/-- Two paths that link to one operation. -/
def sharedLimit : Web where
  cells := #[
    .object [(.text "paths", .cell 1)],
    .object [(.text "/allocation/\x7btenant\x7d/limit", .cell 2),
      (.text "/manage/\x7btenant\x7d/limit", .cell 3)],
    .object [(.text "get", .cell 4)],
    .object [(.text "get", .cell 4)],
    .object [(.text "parameters", .cell 5), (.text "responses", .cell 8)],
    .array [.cell 6],
    .object [(.text "name", .scalar (.text "tenant")), (.text "in", .scalar (.text "path")),
      (.text "schema", .cell 7)],
    .object [(.text "type", .scalar (.text "string"))],
    .object [(.text "200", .cell 9)],
    .object [(.text "description", .scalar (.text "ok"))]]
  root := .cell 0

def sharedPrepared : Document := preparedLimits [preparedLimit .allocation "get_limit"]

/-- What the web shows when it is prepared for managers. -/
def sharedManaged : Document := preparedLimits [
  preparedLimit .allocation "get_manage_limit", preparedLimit .manage "get_manage_limit"]

def sharedReads : Collection := [
  (.get, [limitRead .allocation "get_limit" "limit"]), (.delete, []), (.post, []), (.put, [])]

def sharedManagedReads : Collection := [
  (.get, [limitRead .allocation "get_manage_limit" "limit",
    limitRead .manage "get_manage_limit" "manage-limit"]), (.delete, []), (.post, []), (.put, [])]

/-- An operation that two paths share has the id of the last of them that stays. So the operation on
limits of tenants has another id when those of managers are asked for as well. -/
theorem not_collected_of_more_features_shared :
    sharedLimit.document.keysOnce = true ∧ Update.Normal sharedLimit.document ∧
    (sharedLimit.update []).map Web.document = .ok sharedPrepared ∧
    (sharedLimit.update ["manage"]).map Web.document = .ok sharedManaged ∧
    collect sharedPrepared "ChildList" = .ok sharedReads ∧
    collect sharedManaged "ChildList" = .ok sharedManagedReads ∧
    ¬ ∀ operation ∈ sharedReads.operations, ∃ operation' ∈ sharedManagedReads.operations,
      operation'.method = operation.method ∧ operation'.path = operation.path ∧
        operation'.operationId = operation.operationId ∧
        operation'.selector = operation.selector := by
  have hnormal : Update.Normal sharedLimit.document :=
    Update.normal_of_keys ["/allocation/\x7btenant\x7d/limit", "/manage/\x7btenant\x7d/limit"]
      (by decide +kernel) (by decide +kernel)
  have hreads : collectMethod sharedPrepared "ChildList" .get =
      .ok [limitRead .allocation "get_limit" "limit"] :=
    collectMethod_of_ordered [limitRead .allocation "get_limit" "limit"] (by decide +kernel)
      (by decide +kernel) (by decide +kernel)
  have hmanaged : collectMethod sharedManaged "ChildList" .get =
      .ok [limitRead .allocation "get_manage_limit" "limit",
        limitRead .manage "get_manage_limit" "manage-limit"] :=
    collectMethod_of_ordered [limitRead .allocation "get_manage_limit" "limit",
      limitRead .manage "get_manage_limit" "manage-limit"] (by decide +kernel)
      (by decide +kernel) (by decide +kernel)
  refine ⟨?_, hnormal, ?_, ?_, collect_of_methods ?_ ?_ hreads ?_ ?_ ?_,
    collect_of_methods ?_ ?_ hmanaged ?_ ?_ ?_, ?_⟩
  all_goals decide +kernel

end Operation

end ClientGen
