import ClientGen.Proofs.Document.Composition
import ClientGen.Proofs.Document.Keys

/-!
What preparing a document leaves as it is. Of the whole only the paths and the information change,
of a path item only its operations, of an operation only its parameters and its id, and of the
information only the description; all else stays, in its order. That holds for trees: in a web an
operation can stand in a second place, which changes with it.
-/
namespace ClientGen

open Outcome

namespace Members

variable {names others : List String} {before between after : Members} {name : String}

/-- The keys of two members are the same, and so are their values unless the key is one of some
names. -/
def SameUnder (names : List String) (old new : Scalar × Document) : Prop :=
  new.1 = old.1 ∧ (new.2 = old.2 ∨ ∃ name ∈ names, old.1 = .text name)

theorem SameUnder.rfl {member : Scalar × Document} : SameUnder names member member :=
  ⟨Eq.refl _, .inl (Eq.refl _)⟩

theorem SameUnder.trans {old middle new : Scalar × Document} (h : SameUnder names old middle)
    (h' : SameUnder others middle new) : SameUnder (names ++ others) old new := by
  obtain ⟨hkey, hvalue⟩ := h
  obtain ⟨hkey', hvalue'⟩ := h'
  refine ⟨hkey'.trans hkey, ?_⟩
  rcases hvalue with hvalue | ⟨name, hmem, hname⟩
  · rcases hvalue' with hvalue' | ⟨name, hmem, hname⟩
    · exact .inl (hvalue'.trans hvalue)
    · exact .inr ⟨name, List.mem_append_right _ hmem, hkey.symm.trans hname⟩
  · exact .inr ⟨name, List.mem_append_left _ hmem, hname⟩

def absent (members : Members) (names : List String) : List String :=
  names.filter fun name => .text name ∉ members.map (·.1)

/-- The same members in the same order but for the values of some names. Those of the names that
were absent stand behind all other members. -/
def SameBut (names : List String) (before after : Members) : Prop :=
  ∃ kept added : Members, after = kept ++ added ∧ List.Forall₂ (SameUnder names) before kept ∧
    added.map (·.1) = (before.absent names).map .text

theorem sameBut_nil (members : Members) : SameBut [] members members :=
  ⟨members, [], by simp, List.forall₂_same.mpr fun _ _ => .rfl, rfl⟩

theorem keys_of_sameUnder (h : List.Forall₂ (SameUnder names) before after) :
    after.map (·.1) = before.map (·.1) := by
  induction h with
  | nil => rfl
  | cons head _ ih => rw [List.map_cons, List.map_cons, head.1, ih]

theorem SameBut.keys (h : SameBut names before after) :
    after.map (·.1) = before.map (·.1) ++ (before.absent names).map .text := by
  obtain ⟨kept, added, rfl, hkept, hadded⟩ := h
  rw [List.map_append, keys_of_sameUnder hkept, hadded]

theorem sameUnder_putKey {members : Members} {name : String}
    (h : .text name ∈ members.map (·.1)) (value : Document) :
    List.Forall₂ (SameUnder [name]) members (putKey members (.text name) value) := by
  induction members with
  | nil => simp at h
  | cons member rest ih =>
    obtain ⟨key, old⟩ := member
    by_cases hkey : key = .text name
    · subst hkey
      rw [putKey, if_pos (by simp [Scalar.same_text])]
      exact .cons ⟨rfl, .inr ⟨name, List.mem_singleton_self _, rfl⟩⟩
        (List.forall₂_same.mpr fun _ _ => .rfl)
    · rw [putKey, if_neg (by rw [Scalar.same_text_iff]; exact hkey)]
      exact .cons .rfl (ih (by simpa [Ne.symm hkey] using h))

/-- Setting a member changes nothing but its value. -/
theorem sameBut_put (members : Members) (name : String) (value : Document) :
    SameBut [name] members (put members name value) := by
  by_cases hfresh : .text name ∈ members.map (·.1)
  · exact ⟨_, [], (List.append_nil _).symm, sameUnder_putKey hfresh value, by
      simp [absent, hfresh]⟩
  · exact ⟨members, [(.text name, value)], put_of_fresh hfresh value,
      List.forall₂_same.mpr fun _ _ => .rfl, by simp [absent, hfresh]⟩

/-- Changes under some names and then under others are changes under all of them. -/
theorem SameBut.trans (h : SameBut names before between) (h' : SameBut others between after)
    (disjoint : names.Disjoint others) : SameBut (names ++ others) before after := by
  have hkeys := h.keys
  obtain ⟨kept, added, rfl, hkept, hadded⟩ := h
  obtain ⟨both, added', rfl, hboth, hadded'⟩ := h'
  obtain ⟨kept', behind, hkept', hbehind, rfl⟩ := forall₂_append_left hboth
  refine ⟨kept', behind ++ added', List.append_assoc .., ?_, ?_⟩
  · exact forall₂_comp hkept hkept' fun _ _ _ => .trans
  · -- what is absent at first is absent still, unless it is one of the names
    have habsent : absent (kept ++ added) others = before.absent others := by
      refine List.filter_congr fun name hname => ?_
      have hother : name ∉ before.absent names := fun hmem =>
        disjoint (List.mem_of_mem_filter hmem) hname
      rw [hkeys]
      simp [hother]
    rw [List.map_append, keys_of_sameUnder hbehind, hadded, hadded', habsent, ← List.map_append,
      absent, absent, absent, List.filter_append]

theorem get?_of_sameUnder (h : List.Forall₂ (SameUnder names) before after)
    (hname : name ∉ names) : get? after name = get? before name := by
  induction h with
  | nil => rfl
  | @cons old new _ _ head _ ih =>
    obtain ⟨key, value⟩ := old
    obtain ⟨key', value'⟩ := new
    obtain ⟨hkey, hvalue⟩ := head
    simp only at hkey hvalue
    subst hkey
    simp only [get?, find?, List.find?_cons] at ih ⊢
    cases hsame : key'.same (.text name) with
    | false => exact ih
    | true =>
      rw [Scalar.same_text_iff] at hsame
      rcases hvalue with rfl | ⟨other, hother, hkey⟩
      · rfl
      · cases hsame.symm.trans hkey
        exact absurd hother hname

/-- What stands under any other name stays. -/
theorem SameBut.get?_eq (h : SameBut names before after) (hname : name ∉ names) :
    get? after name = get? before name := by
  obtain ⟨kept, added, rfl, hkept, hadded⟩ := h
  have hnone : get? added name = none := by
    refine get?_eq_none fun member hmember hkey => ?_
    have hmem : Scalar.text name ∈ (before.absent names).map .text :=
      hadded ▸ hkey ▸ List.mem_map_of_mem hmember
    obtain ⟨other, hother, hsame⟩ := List.mem_map.mp hmem
    cases hsame
    exact hname (List.mem_of_mem_filter hother)
  rw [← get?_of_sameUnder hkept hname]
  simp only [get?, find?, Option.map_eq_none_iff] at hnone ⊢
  rw [List.find?_append, hnone, Option.or_none]

end Members

namespace Update

open Members (SameBut)

variable {features : List String} {document updated : Document} {template : PathTemplate}
  {method : String}

/-- What preparing an operation object changes. The parameters are those that were there, with the
authorization header behind them unless it is one of them. -/
structure OperationFrame (template : PathTemplate) (method : String) (before after : Members) :
    Prop where
  others : SameBut ["parameters", "operationId"] before after
  parameters : ∃ old, ((Members.get? before "parameters").getD (.array [])).untie = .array old ∧
    Members.get? after "parameters" = some (.array
      (if ∃ parameter ∈ old, Operation.isAuthorization parameter = true then old
       else old ++ [authorization]))
  id : ∃ id, Operation.synthesizeId method template = .ok id ∧
    Members.get? after "operationId" = some (.text id)

theorem operationFrame_of_update {before after : Members}
    (h : updateOperation template method before = .ok after) :
    OperationFrame template method before after := by
  simp only [updateOperation, bind_eq_ok, pure_eq_ok] at h
  obtain ⟨authorized, hauthorized, id, hid, rfl⟩ := h
  obtain ⟨old, hold, rfl⟩ := withAuthorization_eq_ok.mp hauthorized
  refine ⟨?_, ⟨old, hold, ?_⟩, id, hid, Members.get?_put_same _ _ _⟩
  · exact (Members.sameBut_put before "parameters" _).trans (Members.sameBut_put _ _ _)
      (by simp)
  · rw [Members.get?_put_of_ne _ _ (by decide), Members.get?_put_same]

/-- Those of some methods for which a path item has an operation object. -/
def operationNames (item : Members) (names : List String) : List String :=
  names.filter fun name => (operation? item name).isSome

/-- What preparing a path item changes. A value that is no object stays as it is. -/
structure ItemFrame (template : PathTemplate) (before after : Document) : Prop where
  other : before.isObject = false → after = before
  object : ∀ item, before.untie = .object item → ∃ item', after = .object item' ∧
    SameBut (operationNames item methods) item item' ∧
    ∀ method ∈ methods, ∀ operation, operation? item method = some operation →
      ∃ operation', Members.get? item' method = some (.object operation') ∧
        OperationFrame template method operation operation'

theorem sameBut_of_updateMethod {item item' : Members}
    (h : updateMethod template item method = .ok item') :
    SameBut (operationNames item [method]) item item' := by
  rcases updateMethod_eq_ok.mp h with ⟨hnone, rfl⟩ | ⟨operation, operation', hsome, -, rfl⟩
  · have hnames : operationNames item' [method] = [] := by simp [operationNames, hnone]
    rw [hnames]
    exact Members.sameBut_nil _
  · have hnames : operationNames item [method] = [method] := by simp [operationNames, hsome]
    rw [hnames]
    exact Members.sameBut_put _ _ _

theorem operation_of_updateMethod {item item' operation : Members}
    (h : updateMethod template item method = .ok item')
    (hoperation : operation? item method = some operation) :
    ∃ operation', Members.get? item' method = some (.object operation') ∧
      OperationFrame template method operation operation' := by
  rcases updateMethod_eq_ok.mp h with ⟨hnone, rfl⟩ | ⟨_, operation', hsome, hupdate, rfl⟩
  · cases hnone.symm.trans hoperation
  · cases hsome.symm.trans hoperation
    exact ⟨operation', Members.get?_put_same _ _ _, operationFrame_of_update hupdate⟩

/-- The turns of distinct methods change the operation object of each, and nothing else. -/
theorem frame_of_foldlM {names : List String} (distinct : names.Nodup) {item item' : Members}
    (h : names.foldlM (updateMethod template) item = .ok item') :
    SameBut (operationNames item names) item item' ∧
    ∀ method ∈ names, ∀ operation, operation? item method = some operation →
      ∃ operation', Members.get? item' method = some (.object operation') ∧
        OperationFrame template method operation operation' := by
  induction names generalizing item with
  | nil =>
    cases h
    exact ⟨Members.sameBut_nil _, by simp⟩
  | cons name rest ih =>
    rw [List.foldlM_cons, bind_eq_ok] at h
    obtain ⟨next, hnext, h⟩ := h
    obtain ⟨hname, hrest⟩ := List.nodup_cons.mp distinct
    obtain ⟨hsame, hoperations⟩ := ih hrest h
    -- the operations of the other methods wait as they are while one has its turn
    have hwaiting : ∀ other ∈ rest, operation? next other = operation? item other :=
      fun other hother => operation?_congr
        (updateMethod_get?_of_ne hnext fun heq => hname (heq ▸ hother))
    have hnames : operationNames next rest = operationNames item rest :=
      List.filter_congr fun other hother => by rw [hwaiting other hother]
    rw [hnames] at hsame
    have hdone : name ∉ operationNames item rest := fun hmem =>
      hname (List.mem_of_mem_filter hmem)
    constructor
    · rw [← List.singleton_append, operationNames, List.filter_append]
      refine (sameBut_of_updateMethod hnext).trans hsame fun other hother hmem => ?_
      rw [List.mem_singleton.mp (List.mem_of_mem_filter hother)] at hmem
      exact hdone hmem
    · intro method hmethod operation hoperation
      rcases List.mem_cons.mp hmethod with rfl | hmethod
      · obtain ⟨operation', hget, hframe⟩ := operation_of_updateMethod hnext hoperation
        exact ⟨operation', (hsame.get?_eq hdone).trans hget, hframe⟩
      · exact hoperations method hmethod operation (hwaiting method hmethod ▸ hoperation)

theorem itemFrame_of_update {before after : Document}
    (h : updateItem template before = .ok after) : ItemFrame template before after := by
  rcases updateItem_eq_ok.mp h with ⟨hother, rfl⟩ | ⟨item, item', hitem, hturns, rfl⟩
  · refine ⟨fun _ => rfl, fun item hitem => ?_⟩
    cases hother.symm.trans (Document.isObject_iff.mpr ⟨item, hitem⟩)
  · refine ⟨fun hother => ?_, fun members hmembers => ?_⟩
    · cases hother.symm.trans (Document.isObject_iff.mpr ⟨item, hitem⟩)
    · cases hitem.symm.trans hmembers
      exact ⟨item', rfl, frame_of_foldlM (by decide) hturns⟩

/-- What preparing a path changes: its item. -/
structure PathFrame (before after : Scalar × Document) : Prop where
  key : after.1 = before.1
  item : ∃ name template, before.1 = .text name ∧ PathTemplate.parse name = .ok template ∧
    ItemFrame template before.2 after.2

theorem pathFrame_of_update {before after : Scalar × Document}
    (h : updatePath before = .ok after) : PathFrame before after := by
  obtain ⟨name, template, item, hname, htemplate, hitem, rfl⟩ := updatePath_eq_ok.mp h
  exact ⟨hname.symm, name, template, hname, htemplate, itemFrame_of_update hitem⟩

theorem frame_of_updateInfo {before after : Document} (h : updateInfo before = .ok after) :
    ∃ fields fields', before.untie = .object fields ∧ after = .object fields' ∧
      SameBut ["description"] fields fields' := by
  obtain ⟨fields, hfields, rfl⟩ := updateInfo_eq_ok.mp h
  exact ⟨fields, _, hfields, rfl, Members.sameBut_put _ _ _⟩

/-- What preparing a document changes. Paths and information that are absent count as empty. -/
structure Framed (features : List String) (before after : Document) : Prop where
  others : ∃ members members', before.untie = .object members ∧ after = .object members' ∧
    SameBut ["paths", "info"] members members'
  paths : ∃ paths paths', ((before.get? "paths").getD (.object [])).untie = .object paths ∧
    after.get? "paths" = some (.object paths') ∧
    List.Forall₂ PathFrame (paths.filter (stays features)) paths'
  info : ∃ info info', ((before.get? "info").getD (.object [])).untie = .object info ∧
    after.get? "info" = some (.object info') ∧ SameBut ["description"] info info'

/-- Preparing a document changes nothing but what it is about: it leaves out paths, writes into the
operations of the others, and adds to the description. -/
theorem framed_of_update (h : update features document = .ok updated) :
    Framed features document updated := by
  obtain ⟨members, paths, kept, prepared, info, hmembers, hpaths, hkept, hprepared, hinfo, rfl⟩ :=
    update_eq_ok.mp h
  rw [Members.get?_put_of_ne _ _ (by decide)] at hinfo
  obtain ⟨fields, fields', hfields, rfl, hdescription⟩ := frame_of_updateInfo hinfo
  obtain ⟨rfl, -⟩ := prune_eq_ok.mp hkept
  have hget : ∀ name, document.get? name = Members.get? members name := fun name => by
    simp only [Document.get?, hmembers]
  refine ⟨⟨members, _, hmembers, rfl, ?_⟩, ⟨paths, prepared, ?_, ?_, ?_⟩,
    ⟨fields, fields', ?_, ?_, hdescription⟩⟩
  · exact (Members.sameBut_put members "paths" _).trans (Members.sameBut_put _ _ _) (by simp)
  · rw [hget, hpaths]
  · rw [Document.get?_object, get?_paths_put]
  · exact (mapM_eq_ok.mp hprepared).imp fun _ _ => pathFrame_of_update
  · rw [hget, hfields]
  · rw [Document.get?_object, Members.get?_put_same]

/-- A document with a path that is left out, an operation that has an id and a header of its own,
one that has neither, members that are no operations, a path without an object, and no
information. -/
def ownedDocument : Document := .object [
  (.text "openapi", .text "3.0.0"),
  (.text "paths", .object [
    (.text "/manage/\x7btenant\x7d/limit", .object [(.text "get", .object [])]),
    (.text "/allocation/\x7btenant\x7d/task", .object [
      (.text "summary", .object []),
      (.text "get", .object [
        (.text "operationId", .text "tasks"), (.text "x-owner", .text "us"),
        (.text "parameters", .array [
          .object [(.text "name", .text "authorization"), (.text "in", .text "header")]])]),
      (.text "put", .object [(.text "summary", .text "Put")]),
      (.text "post", .text "soon")]),
    (.text "/allocation/\x7btenant\x7d/volume", .null)]),
  (.text "x-owner", .text "us")]

def ownedPrepared : Document := value (update [] ownedDocument) (by decide +kernel)

theorem framed_of_update_owned :
    update [] ownedDocument = .ok ownedPrepared ∧ Framed [] ownedDocument ownedPrepared := by
  have h : update [] ownedDocument = .ok ownedPrepared := eq_ok_value _ _
  exact ⟨h, framed_of_update h⟩

theorem Framed.get?_eq {before after : Document} (h : Framed features before after) {name : String}
    (hname : name ∉ ["paths", "info"]) : after.get? name = before.get? name := by
  obtain ⟨members, members', hbefore, rfl, hsame⟩ := h.others
  rw [Document.get?_object, hsame.get?_eq hname, Document.get?, hbefore]

/-- What the web of one operation in two places shows after it was prepared. -/
def linkedPrepared : Document :=
  value ((linkedLimit.update ["manage"]).map Web.document) (by decide +kernel)

/-- Preparing a web changes what is neither a path nor information: the operation on its own has the
header and the id that it was given at its path. -/
theorem not_framed_linkedLimit :
    (linkedLimit.update ["manage"]).map Web.document = .ok linkedPrepared ∧
    ¬ Framed ["manage"] linkedLimit.document linkedPrepared := by
  have hdiffer : linkedPrepared.get? "x-limit" ≠ linkedLimit.document.get? "x-limit" := by
    decide +kernel
  exact ⟨eq_ok_value _ _, fun h => hdiffer (h.get?_eq (by decide))⟩

end Update

end ClientGen
