import ClientGen.Proofs.Document.Reordering
import Mathlib.Data.List.Nodup
import Mathlib.Data.List.Perm.Subperm
import Mathlib.Logic.Relation

/-!
Chains of references. Following references from a value ends at the value at the end of the chain,
is refused as circular exactly when the chain has no end, and fails exactly when some reference of
the chain leads nowhere. Every reference but the first stands in the document, so counting those
of the document is enough to notice a circle.
-/
namespace ClientGen

open Relation (ReflTransGen TransGen)

theorem Members.mem_of_get? {members : Members} {name : String} {value : Document}
    (h : get? members name = some value) : ∃ key, (key, value) ∈ members := by
  unfold get? find? at h
  obtain ⟨⟨key, found⟩, hfound, rfl⟩ := Option.map_eq_some_iff.mp h
  exact ⟨key, List.mem_of_find?_eq_some hfound⟩

namespace Document

variable {mark : Nat} {whole document : Document}

theorem eq_text_of_refill (hwhole : whole.text? = none) {s : String}
    (h : refill mark whole document = text s) : document = text s := by
  cases document with
  | scalar value => exact h
  | back other =>
    unfold refill at h
    split at h
    · simp [h, text?] at hwhole
    · cases h
  | knot inner content =>
    unfold refill at h
    split at h <;> cases h
  | _ => cases h

end Document

namespace Reference

open Document

variable {document value target : Document} {reference token : String}

/-- A value is a reference to follow: an object whose `$ref` is a text that does not lead to a
schema. -/
def Refers (value : Document) (reference : String) : Prop :=
  value.get? "$ref" = some (.text reference) ∧ Text.startsWith reference schemaPlace = false

/-- The values at which following ends. -/
inductive Settled (value : Document) : Prop
  | noObject (kind : value.isObject = false)
  | noReference (absent : value.get? "$ref" = none)
  | noText {other : Document} (found : value.get? "$ref" = some other) (kind : other.text? = none)
  | schema {reference : String} (found : value.get? "$ref" = some (.text reference))
      (place : Text.startsWith reference schemaPlace = true)

/-- What a value that is a reference to follow leads to. -/
def Leads (document value target : Document) : Prop :=
  ∃ reference, Refers value reference ∧ Pointer.resolve reference document = .ok target

/-- What a value leads to by following finitely many references, none included. -/
def Reaches (document : Document) : Document → Document → Prop := ReflTransGen (Leads document)

/-- The chain of references from a value has no end: whatever it reaches leads on. -/
def Endless (document value : Document) : Prop :=
  ∀ target, Reaches document value target → ∃ next, Leads document target next

theorem next?_eq_some_iff : next? value = some reference ↔ Refers value reference := by
  unfold next? Refers
  split
  next found hfound =>
    rw [hfound]
    cases hplace : Text.startsWith found schemaPlace with
    | true =>
      simp only [if_true, reduceCtorEq, false_iff, not_and, Option.some.injEq, scalar.injEq,
        Scalar.text.injEq]
      rintro rfl
      simp [hplace]
    | false =>
      simp only [Bool.false_eq_true, if_false, Option.some.injEq, scalar.injEq, Scalar.text.injEq]
      exact ⟨fun h => ⟨h, h ▸ hplace⟩, And.left⟩
  next hother =>
    simp only [reduceCtorEq, false_iff, not_and]
    intro h
    exact absurd h (hother reference)

theorem next?_eq_none_iff : next? value = none ↔ Settled value := by
  constructor
  · intro hnext
    cases hfound : value.get? "$ref" with
    | none => exact .noReference hfound
    | some other =>
      cases htext : other.text? with
      | none => exact .noText hfound htext
      | some reference =>
        have hother : other = .text reference := by
          unfold Document.text? at htext
          split at htext <;> simp_all
        subst hother
        refine .schema hfound ?_
        by_contra hplace
        rw [Bool.not_eq_true] at hplace
        rw [next?_eq_some_iff.mpr ⟨hfound, hplace⟩] at hnext
        cases hnext
  · intro h
    unfold next?
    cases h with
    | noObject kind => rw [get?_of_not_isObject kind]
    | noReference absent => rw [absent]
    | noText found kind =>
      rw [found]
      split
      next hsome =>
        cases hsome
        cases kind
      · rfl
    | schema found place => simp [found, place]

theorem Refers.unique {other : String} (h : Refers value reference) (h' : Refers value other) :
    reference = other := by
  have hsame := h.1.symm.trans h'.1
  cases hsame
  rfl

theorem Settled.not_refers (h : Settled value) : ¬ Refers value reference := by
  intro hrefers
  rw [← next?_eq_none_iff, next?_eq_some_iff.mpr hrefers] at h
  cases h

theorem Settled.not_leads (h : Settled value) : ¬ Leads document value target := by
  rintro ⟨reference, hrefers, -⟩
  exact h.not_refers hrefers

theorem leads_rightUnique : Relator.RightUnique (Leads document) := by
  rintro value target target' ⟨reference, hrefers, htarget⟩ ⟨reference', hrefers', htarget'⟩
  cases hrefers.unique hrefers'
  cases htarget.symm.trans htarget'
  rfl

/-! Where the references of a chain stand. -/

theorem Refers.of_refill {members : Members} {mark : Nat} {whole : Document}
    (hwhole : whole.text? = none)
    (h : Refers (.object (refillMembers mark whole members)) reference) :
    Refers (.object members) reference := by
  refine ⟨?_, h.2⟩
  have hfound := h.1
  rw [get?_object, get?_refillMembers, Option.map_eq_some_iff] at hfound
  obtain ⟨found, hfound, hrefill⟩ := hfound
  rw [get?_object, hfound, eq_text_of_refill hwhole hrefill]

theorem mem_pending_object {members : Members} : reference ∈ pending (.object members) ↔
    Refers (.object members) reference ∨ ∃ member ∈ members, reference ∈ pending member.2 := by
  rw [pending, pendingMembers_eq, List.mem_append, Option.mem_toList, next?_eq_some_iff,
    List.mem_flatMap]

theorem mem_pending_array {items : List Document} :
    reference ∈ pending (.array items) ↔ ∃ item ∈ items, reference ∈ pending item := by
  rw [pending, pendingItems_eq, List.mem_flatMap]

mutual

/-- Filling in the whole of a knot adds no references but those of the knot. -/
theorem mem_pending_of_refill {mark : Nat} {whole : Document} (hwhole : whole.text? = none) :
    ∀ {document : Document}, reference ∈ pending (refill mark whole document) →
      reference ∈ pending document ∨ reference ∈ pending whole
  | .scalar _, h => .inl h
  | .set _, h => .inl h
  | .array items, h => by
    simp only [refill, pending] at h ⊢
    exact mem_pendingItems_of_refill hwhole h
  | .pair first second, h => by
    simp only [refill, pending, List.mem_append] at h ⊢
    rcases h with h | h
    · exact (mem_pending_of_refill hwhole h).imp_left .inl
    · exact (mem_pending_of_refill hwhole h).imp_left .inr
  | .object members, h => by
    simp only [refill, pending, List.mem_append, Option.mem_toList, next?_eq_some_iff] at h ⊢
    rcases h with h | h
    · exact .inl (.inl (h.of_refill hwhole))
    · exact (mem_pendingMembers_of_refill hwhole h).imp_left .inr
  | .knot inner content, h => by
    unfold refill at h
    split at h
    · exact .inl h
    · simp only [pending] at h ⊢
      exact mem_pending_of_refill hwhole h
  | .back other, h => by
    unfold refill at h
    split at h
    · exact .inr h
    · exact .inl h

theorem mem_pendingItems_of_refill {mark : Nat} {whole : Document} (hwhole : whole.text? = none) :
    ∀ {items : List Document}, reference ∈ pendingItems (refillItems mark whole items) →
      reference ∈ pendingItems items ∨ reference ∈ pending whole
  | [], h => .inl h
  | item :: rest, h => by
    simp only [refillItems, pendingItems, List.mem_append] at h ⊢
    rcases h with h | h
    · exact (mem_pending_of_refill hwhole h).imp_left .inl
    · exact (mem_pendingItems_of_refill hwhole h).imp_left .inr

theorem mem_pendingMembers_of_refill {mark : Nat} {whole : Document}
    (hwhole : whole.text? = none) : ∀ {members : List (Scalar × Document)},
      reference ∈ pendingMembers (refillMembers mark whole members) →
      reference ∈ pendingMembers members ∨ reference ∈ pending whole
  | [], h => .inl h
  | (_, value) :: rest, h => by
    simp only [refillMembers, pendingMembers, List.mem_append] at h ⊢
    rcases h with h | h
    · exact (mem_pending_of_refill hwhole h).imp_left .inl
    · exact (mem_pendingMembers_of_refill hwhole h).imp_left .inr

end

theorem pending_untie_subset (document : Document) : pending document.untie ⊆ pending document := by
  intro reference h
  cases document with
  | knot mark content => exact (mem_pending_of_refill rfl h).elim id id
  | _ => exact h

theorem Refers.mem_pending (h : Refers value reference) : reference ∈ pending value := by
  apply pending_untie_subset
  obtain ⟨hfound, hplace⟩ := h
  unfold Document.get? at hfound
  split at hfound
  next members hmembers =>
    rw [hmembers]
    exact mem_pending_object.mpr (.inl ⟨hfound, hplace⟩)
  · cases hfound

theorem itemAt?_mem {items : List Document} {index : Int} {item : Document}
    (h : Pointer.itemAt? items index = some item) : item ∈ items := by
  unfold Pointer.itemAt? at h
  split_ifs at h <;> exact List.mem_of_getElem? h

theorem pending_subset_of_step (h : Pointer.step reference token value = .ok target) :
    pending target ⊆ pending value := by
  refine List.Subset.trans ?_ (pending_untie_subset value)
  unfold Pointer.step at h
  split at h
  next members hmembers =>
    split at h
    next found hfound =>
      cases h
      obtain ⟨key, hmem⟩ := Members.mem_of_get? hfound
      rw [hmembers]
      exact fun _ hreference => mem_pending_object.mpr (.inr ⟨_, hmem, hreference⟩)
    · cases h
  next items hitems =>
    split at h
    next found hfound =>
      cases h
      obtain ⟨index, -, hitem⟩ := Option.bind_eq_some_iff.mp hfound
      rw [hitems]
      exact fun _ hreference => mem_pending_array.mpr ⟨_, itemAt?_mem hitem, hreference⟩
    · cases h
  · cases h

/-- A pointer leads to a value whose references stand in the document. -/
theorem pending_subset_of_pointer (h : Pointer.resolve reference document = .ok target) :
    pending target ⊆ pending document := by
  unfold Pointer.resolve at h
  split at h
  · cases h
  next tokens htokens =>
    clear htokens
    induction tokens generalizing document with
    | nil =>
      cases h
      exact List.Subset.refl _
    | cons token rest ih =>
      rw [List.foldlM_cons, Outcome.bind_eq_ok] at h
      obtain ⟨next, hnext, h⟩ := h
      exact List.Subset.trans (ih h) (pending_subset_of_step hnext)

/-! How following ends. -/

/-- A value that the chain comes back to leads back to itself from every value it reaches. -/
theorem reaches_back (circle : TransGen (Leads document) value value)
    (h : Reaches document value target) : Reaches document target value := by
  induction h with
  | refl => exact .refl
  | @tail target next _ hnext ih =>
    -- a step from `target` has one result, and the way back begins with it
    rcases ReflTransGen.cases_head ih with rfl | ⟨next', hnext', hback⟩
    · obtain ⟨next', hnext', hback⟩ := TransGen.head'_iff.mp circle
      cases leads_rightUnique hnext hnext'
      exact hback
    · cases leads_rightUnique hnext hnext'
      exact hback

theorem endless_of_circle (circle : TransGen (Leads document) value value) :
    Endless document value := by
  intro target htarget
  rcases ReflTransGen.cases_head (reaches_back circle htarget) with rfl | ⟨next, hnext, -⟩
  · obtain ⟨next, hnext, -⟩ := TransGen.head'_iff.mp circle
    exact ⟨next, hnext⟩
  · exact ⟨next, hnext⟩

theorem Endless.of_leads (h : Leads document value target) (endless : Endless document target) :
    Endless document value := by
  intro reached hreached
  rcases ReflTransGen.cases_head hreached with rfl | ⟨next, hnext, hreached⟩
  · exact ⟨target, h⟩
  · cases leads_rightUnique h hnext
    exact endless reached hreached

theorem follow_of_none {fuel : Nat} {seen : List String} (h : next? value = none) :
    follow document fuel seen value = .ok value := by
  unfold follow
  rw [h]

/-- The ways in which following references from a value can end. -/
inductive Ends (document value : Document) : Except Failure Document → Prop
  | settled {target : Document} (reaches : Reaches document value target)
      (last : Settled target) : Ends document value (.ok target)
  | endless (chain : List String) (endless : Endless document value) :
      Ends document value (.error (.circularReference chain))
  | nowhere {source : Document} {reference : String} {fault : ReferenceFault}
      (reaches : Reaches document value source) (refers : Refers source reference)
      (failed : Pointer.resolve reference document = .error fault) :
      Ends document value (.error (.reference fault))

theorem Ends.of_leads {result : Except Failure Document} (h : Leads document value target)
    (ends : Ends document target result) : Ends document value result := by
  cases ends with
  | settled reaches last => exact .settled (.head h reaches) last
  | endless chain endless => exact .endless chain (.of_leads h endless)
  | nowhere reaches refers failed => exact .nowhere (.head h reaches) refers failed

/-- Following ends as the chain does, when each reference seen was followed on the way to the value
and there is fuel for all references that have not been seen. -/
theorem ends_follow {known : List String} {fuel : Nat} {seen : List String}
    (once : seen.Nodup)
    (earlier : ∀ reference ∈ seen, ∃ source, Refers source reference ∧
      TransGen (Leads document) source value)
    (hknown : seen ⊆ known) (hnext : ∀ reference, Refers value reference → reference ∈ known)
    (hpending : pending document ⊆ known) (room : known.length ≤ fuel + seen.length) :
    Ends document value (follow document fuel seen value) := by
  fun_induction follow document fuel seen value with
  | case1 fuel seen value hnone => exact .settled .refl (next?_eq_none_iff.mp hnone)
  | case2 fuel seen value reference hreference hseen =>
    obtain ⟨source, hsource, hvalue⟩ := earlier reference (List.contains_iff_mem.mp hseen)
    -- the source leads where the value leads, and from there back to the value
    obtain ⟨target, ⟨_, hrefers, htarget⟩, hback⟩ := TransGen.head'_iff.mp hvalue
    cases hsource.unique hrefers
    have hleads : Leads document value target :=
      ⟨reference, next?_eq_some_iff.mp hreference, htarget⟩
    exact .endless _ (endless_of_circle (.head' hleads hback))
  | case3 fuel seen value reference hreference hseen fault hfault =>
    exact .nowhere .refl (next?_eq_some_iff.mp hreference) hfault
  | case4 seen value reference hreference hseen target htarget =>
    -- all references of `seen` and this one are known, which are too many
    rw [List.contains_iff_mem] at hseen
    have honce : (reference :: seen).Nodup := List.nodup_cons.mpr ⟨hseen, once⟩
    have hsubset : reference :: seen ⊆ known :=
      List.cons_subset.mpr ⟨hnext reference (next?_eq_some_iff.mp hreference), hknown⟩
    have hlength := (List.subperm_of_subset honce hsubset).length_le
    simp only [List.length_cons] at hlength
    omega
  | case5 seen value reference hreference hseen target htarget fuel ih =>
    rw [List.contains_iff_mem] at hseen
    have hrefers := next?_eq_some_iff.mp hreference
    have hleads : Leads document value target := ⟨reference, hrefers, htarget⟩
    refine .of_leads hleads (ih ?_ ?_ ?_ ?_ ?_)
    · exact once.append (List.nodup_singleton _) (List.disjoint_singleton.mpr hseen)
    · intro other hother
      rcases List.mem_append.mp hother with hother | hother
      · obtain ⟨source, hsource, hvalue⟩ := earlier other hother
        exact ⟨source, hsource, hvalue.tail hleads⟩
      · cases List.mem_singleton.mp hother
        exact ⟨value, hrefers, .single hleads⟩
    · exact List.append_subset.mpr ⟨hknown, by simpa using hnext reference hrefers⟩
    · intro other hother
      exact hpending (pending_subset_of_pointer htarget hother.mem_pending)
    · simp only [List.length_append, List.length_singleton]
      omega

theorem ends_resolve (document value : Document) :
    Ends document value (resolve document value) := by
  have hfollow : resolve document value =
      follow document ((pending document).length + 1) [] value := by
    unfold resolve
    split
    next hnone => exact (follow_of_none (Option.isNone_iff_eq_none.mp hnone)).symm
    · rfl
  rw [hfollow]
  have hnext : ∀ reference, Refers value reference →
      reference ∈ (next? value).toList ++ pending document := by
    intro reference hrefers
    simp [next?_eq_some_iff.mpr hrefers]
  refine ends_follow List.nodup_nil (by simp) (List.nil_subset _) hnext
    (List.subset_append_right _ _) ?_
  have hfirst : (next? value).toList.length ≤ 1 := by cases next? value <;> simp
  simp only [List.length_append, List.length_nil]
  omega

theorem Endless.not_settled (h : Endless document value) (reaches : Reaches document value target) :
    ¬ Settled target := by
  intro hsettled
  obtain ⟨next, hnext⟩ := h target reaches
  exact hsettled.not_leads hnext

/-- A chain has one last value at most: a value of it from which nothing leads on is reached from
every other. -/
theorem eq_of_reaches {other : Document} (h : Reaches document value target)
    (h' : Reaches document value other) (last : ∀ next, ¬ Leads document target next)
    (last' : ∀ next, ¬ Leads document other next) : target = other := by
  rcases ReflTransGen.total_of_right_unique leads_rightUnique h h' with h | h
  · rcases ReflTransGen.cases_head h with rfl | ⟨next, hnext, -⟩
    · rfl
    · exact absurd hnext (last next)
  · rcases ReflTransGen.cases_head h with rfl | ⟨next, hnext, -⟩
    · rfl
    · exact absurd hnext (last' next)

theorem not_leads_of_error {source : Document} {fault : ReferenceFault}
    (refers : Refers source reference) (failed : Pointer.resolve reference document = .error fault)
    (next : Document) : ¬ Leads document source next := by
  rintro ⟨other, hother, hnext⟩
  cases refers.unique hother
  rw [failed] at hnext
  cases hnext

theorem Ends.unique {first second : Except Failure Document} (h : Ends document value first)
    (h' : Ends document value second) : first = second ∨ ∃ chain chain' : List String,
      first = .error (.circularReference chain) ∧ second = .error (.circularReference chain') := by
  cases h with
  | settled reaches last =>
    cases h' with
    | settled reaches' last' =>
      rw [eq_of_reaches reaches reaches' (fun _ => last.not_leads) fun _ => last'.not_leads]
      exact .inl rfl
    | endless _ endless => exact absurd last (endless.not_settled reaches)
    | nowhere reaches' refers failed =>
      cases eq_of_reaches reaches reaches' (fun _ => last.not_leads)
        (not_leads_of_error refers failed)
      exact absurd refers last.not_refers
  | endless chain endless =>
    cases h' with
    | settled reaches last => exact absurd last (endless.not_settled reaches)
    | endless chain' _ => exact .inr ⟨chain, chain', rfl, rfl⟩
    | nowhere reaches refers failed =>
      obtain ⟨next, hnext⟩ := endless _ reaches
      exact absurd hnext (not_leads_of_error refers failed next)
  | nowhere reaches refers failed =>
    cases h' with
    | settled reaches' last =>
      cases eq_of_reaches reaches' reaches (fun _ => last.not_leads)
        (not_leads_of_error refers failed)
      exact absurd refers last.not_refers
    | endless _ endless =>
      obtain ⟨next, hnext⟩ := endless _ reaches
      exact absurd hnext (not_leads_of_error refers failed next)
    | nowhere reaches' refers' failed' =>
      cases eq_of_reaches reaches reaches' (not_leads_of_error refers failed)
        (not_leads_of_error refers' failed')
      cases refers.unique refers'
      cases failed.symm.trans failed'
      exact .inl rfl

/-- Resolving follows the chain of references to its end: it gives the value at which the chain
ends, is refused as circular exactly when the chain has no end, and fails otherwise with the fault
of the reference on the chain that leads nowhere. What it gives is resolved already. -/
theorem resolve_follows_chain (document value : Document) :
    (∀ target, resolve document value = .ok target ↔
      Reaches document value target ∧ Settled target) ∧
    ((∃ chain, resolve document value = .error (.circularReference chain)) ↔
      Endless document value) ∧
    (∀ fault, resolve document value = .error (.reference fault) ↔
      ∃ source reference, Reaches document value source ∧ Refers source reference ∧
        Pointer.resolve reference document = .error fault) ∧
    ((∃ target, resolve document value = .ok target) ∨
      (∃ chain, resolve document value = .error (.circularReference chain)) ∨
      ∃ fault, resolve document value = .error (.reference fault)) ∧
    (resolve document value >>= resolve document) = resolve document value := by
  have hends := ends_resolve document value
  refine ⟨fun target => ⟨?_, ?_⟩, ⟨?_, ?_⟩, fun fault => ⟨?_, ?_⟩, ?_, ?_⟩
  · intro hresult
    rw [hresult] at hends
    cases hends with
    | settled reaches last => exact ⟨reaches, last⟩
  · rintro ⟨reaches, last⟩
    rcases hends.unique (.settled reaches last) with hresult | ⟨_, _, -, hother⟩
    · exact hresult
    · cases hother
  · rintro ⟨chain, hresult⟩
    rw [hresult] at hends
    cases hends with
    | endless _ endless => exact endless
  · intro endless
    rcases hends.unique (.endless [] endless) with hresult | ⟨chain, _, hresult, -⟩
    · exact ⟨[], hresult⟩
    · exact ⟨chain, hresult⟩
  · intro hresult
    rw [hresult] at hends
    cases hends with
    | nowhere reaches refers failed => exact ⟨_, _, reaches, refers, failed⟩
  · rintro ⟨source, reference, reaches, refers, failed⟩
    rcases hends.unique (.nowhere reaches refers failed) with hresult | ⟨_, _, -, hother⟩
    · exact hresult
    · cases hother
  · generalize resolve document value = result at hends
    cases hends with
    | settled => exact .inl ⟨_, rfl⟩
    | endless chain => exact .inr (.inl ⟨chain, rfl⟩)
    | nowhere => exact .inr (.inr ⟨_, rfl⟩)
  · generalize resolve document value = result at hends ⊢
    cases hends with
    | @settled target _ last =>
      have hagain : resolve document target = .ok target := by
        simp [resolve, next?_eq_none_iff.mpr last]
      exact hagain
    | endless => rfl
    | nowhere => rfl

end Reference

end ClientGen
