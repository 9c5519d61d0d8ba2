import Mathlib.Data.List.Perm.Basic
import Mathlib.Data.List.Forall2
import Mathlib.Data.List.Nodup
import ClientGen.Proofs.Outcome

/-!
Two runs side by side. Their results agree if both fail, or both succeed with values that stand in a
relation; lists are related up to order if one can be put in an order in which they match place by
place.
-/
namespace ClientGen

/-- Both fail, or both succeed with related values. -/
inductive Agree {ε α β : Type} (R : α → β → Prop) : Except ε α → Except ε β → Prop
  | ok {a : α} {b : β} (related : R a b) : Agree R (.ok a) (.ok b)
  | error (failure failure' : ε) : Agree R (.error failure) (.error failure')

/-- Related place by place after the first is put in another order. -/
def UpToOrder {α β : Type} (R : α → β → Prop) (as : List α) (bs : List β) : Prop :=
  ∃ ordered : List α, as.Perm ordered ∧ List.Forall₂ R ordered bs

variable {ε α β γ δ : Type} {R : α → β → Prop} {S : γ → δ → Prop}

theorem isSome_eq_of_rel {x : Option α} {y : Option β} (h : Option.Rel R x y) :
    x.isSome = y.isSome := by
  cases h <;> rfl

theorem rel_bind {x : Option α} {y : Option β} {f : α → Option γ} {g : β → Option δ}
    (h : Option.Rel R x y) (hfg : ∀ a b, R a b → Option.Rel S (f a) (g b)) :
    Option.Rel S (x.bind f) (y.bind g) := by
  cases h with
  | none => exact .none
  | some hab => exact hfg _ _ hab

theorem rel_map {x : Option α} {y : Option β} {f : α → γ} {g : β → δ} (h : Option.Rel R x y)
    (hfg : ∀ a b, R a b → S (f a) (g b)) : Option.Rel S (x.map f) (y.map g) := by
  cases h with
  | none => exact .none
  | some hab => exact .some (hfg _ _ hab)

namespace Agree

theorem same {x : Except ε α} : Agree Eq x x := by
  cases x with
  | error failure => exact .error failure failure
  | ok a => exact .ok rfl

theorem exists_of_ok {a : α} {y : Except ε β} (h : Agree R (.ok a) y) :
    ∃ b, y = .ok b ∧ R a b := by
  cases h with
  | ok related => exact ⟨_, rfl, related⟩

theorem bind {x : Except ε α} {y : Except ε β} {f : α → Except ε γ} {g : β → Except ε δ}
    (h : Agree R x y) (hfg : ∀ a b, R a b → Agree S (f a) (g b)) :
    Agree S (x >>= f) (y >>= g) := by
  cases h with
  | ok related => exact hfg _ _ related
  | error failure failure' => exact .error failure failure'

/-- Related results, together with where the first comes from. -/
theorem with_eq {x : Except ε α} {y : Except ε β} (h : Agree R x y) :
    Agree (fun a b => x = .ok a ∧ R a b) x y := by
  cases h with
  | ok related => exact .ok ⟨rfl, related⟩
  | error failure failure' => exact .error failure failure'

theorem map {x : Except ε α} {y : Except ε β} {f : α → γ} {g : β → δ} (h : Agree R x y)
    (hfg : ∀ a b, R a b → S (f a) (g b)) : Agree S (x.map f) (y.map g) := by
  cases h with
  | ok related => exact .ok (hfg _ _ related)
  | error failure failure' => exact .error failure failure'

theorem mapM {f : α → Except ε γ} {g : β → Except ε δ} {as : List α} {bs : List β}
    (h : List.Forall₂ R as bs) (hfg : ∀ a b, R a b → Agree S (f a) (g b)) :
    Agree (List.Forall₂ S) (as.mapM f) (bs.mapM g) := by
  induction h with
  | nil => exact .ok .nil
  | cons head _ ih =>
    rw [List.mapM_cons, List.mapM_cons]
    refine (hfg _ _ head).bind fun c d hcd => ih.bind fun cs ds hall => ?_
    exact .ok (.cons hcd hall)

theorem foldlM {s : γ} {t : δ} {f : γ → α → Except ε γ} {g : δ → α → Except ε δ}
    (hfg : ∀ s t a, S s t → Agree S (f s a) (g t a)) (as : List α) (h : S s t) :
    Agree S (as.foldlM f s) (as.foldlM g t) := by
  induction as generalizing s t with
  | nil => exact .ok h
  | cons a as ih =>
    rw [List.foldlM_cons, List.foldlM_cons]
    exact (hfg s t a h).bind fun s' t' h' => ih h'

/-- A walk over the same places in another order gives the same values in that order. -/
theorem mapM_of_perm {f : α → Except ε γ} {as bs : List α} (h : as.Perm bs) :
    Agree List.Perm (as.mapM f) (bs.mapM f) := by
  induction h with
  | nil => exact .ok .nil
  | cons a _ ih =>
    rw [List.mapM_cons, List.mapM_cons]
    refine (same (x := f a)).bind fun c d hcd => ih.bind fun cs ds hperm => ?_
    cases hcd
    exact .ok (hperm.cons c)
  | swap a b rest =>
    simp only [List.mapM_cons]
    cases f a with
    | error failure => cases f b <;> exact .error _ _
    | ok c =>
      cases f b with
      | error failure => exact .error _ _
      | ok d =>
        cases rest.mapM f with
        | error failure => exact .error _ _
        | ok cs => exact .ok (.swap c d cs)
  | @trans as bs cs _ _ ihab ihbc =>
    generalize as.mapM f = x at *
    generalize bs.mapM f = y at *
    generalize cs.mapM f = z at *
    cases ihab with
    | error failure failure' =>
      cases ihbc
      exact .error _ _
    | ok hab =>
      cases ihbc with
      | ok hbc => exact .ok (hab.trans hbc)

end Agree

namespace UpToOrder

theorem of_forall₂ {as : List α} {bs : List β} (h : List.Forall₂ R as bs) : UpToOrder R as bs :=
  ⟨as, .refl _, h⟩

theorem perm {as bs : List α} (h : UpToOrder Eq as bs) : as.Perm bs := by
  obtain ⟨ordered, hperm, hall⟩ := h
  rw [List.forall₂_eq_eq_eq] at hall
  exact hall ▸ hperm

theorem length_eq {as : List α} {bs : List β} (h : UpToOrder R as bs) :
    as.length = bs.length := by
  obtain ⟨ordered, hperm, hall⟩ := h
  exact hperm.length_eq.trans hall.length_eq

theorem and_left {p : α → Prop} {as : List α} {bs : List β} (h : UpToOrder R as bs)
    (hp : ∀ a ∈ as, p a) : UpToOrder (fun a b => p a ∧ R a b) as bs := by
  obtain ⟨ordered, hperm, hall⟩ := h
  exact ⟨ordered, hperm, (List.forall₂_and_left _ _).mpr
    ⟨fun a ha => hp a (hperm.mem_iff.mpr ha), hall⟩⟩

theorem map_perm {f : α → γ} {g : β → γ} {as : List α} {bs : List β} (h : UpToOrder R as bs)
    (hfg : ∀ a b, R a b → f a = g b) : (as.map f).Perm (bs.map g) := by
  obtain ⟨ordered, hperm, hall⟩ := h
  have heq : ordered.map f = bs.map g := by
    rw [← List.forall₂_eq_eq_eq, List.forall₂_map_left_iff, List.forall₂_map_right_iff]
    exact hall.imp hfg
  exact heq ▸ hperm.map f

theorem mapM {f : α → Except ε γ} {g : β → Except ε δ} {as : List α} {bs : List β}
    (h : UpToOrder R as bs) (hfg : ∀ a b, R a b → Agree S (f a) (g b)) :
    Agree (UpToOrder S) (as.mapM f) (bs.mapM g) := by
  obtain ⟨ordered, hperm, hall⟩ := h
  have hordered := Agree.mapM hall hfg
  have has := Agree.mapM_of_perm (f := f) hperm
  generalize as.mapM f = x at *
  generalize ordered.mapM f = y at *
  generalize bs.mapM g = z at *
  cases has with
  | error failure failure' =>
    cases hordered
    exact .error _ _
  | ok hcs =>
    cases hordered with
    | ok hall' => exact .ok ⟨_, hcs, hall'⟩

theorem filterMap {f : α → Option γ} {g : β → Option δ} {as : List α} {bs : List β}
    (h : UpToOrder R as bs) (hfg : ∀ a b, R a b → Option.Rel S (f a) (g b)) :
    UpToOrder S (as.filterMap f) (bs.filterMap g) := by
  obtain ⟨ordered, hperm, hall⟩ := h
  exact ⟨ordered.filterMap f, hperm.filterMap f, List.rel_filterMap (fun a b => hfg a b) hall⟩

/-- Lists that are related up to order and sorted by distinct keys are related place by place. -/
theorem forall₂_of_sorted {k : α → String} {l : β → String} {as sorted : List α}
    {bs sorted' : List β} (h : UpToOrder R as bs) (hkey : ∀ a b, R a b → k a = l b)
    (hperm : sorted.Perm as) (hperm' : sorted'.Perm bs)
    (hsorted : sorted.Pairwise (fun a b => k a < k b))
    (hsorted' : sorted'.Pairwise (fun a b => l a < l b)) : List.Forall₂ R sorted sorted' := by
  obtain ⟨ordered, hordered, hall⟩ := h
  obtain ⟨bs', hall', hbs'⟩ := List.perm_comp_forall₂ (hperm.trans hordered) hall
  have hpairwise : bs'.Pairwise (fun a b => l a < l b) := by
    clear hbs' hperm
    induction hall' with
    | nil => exact .nil
    | @cons a b as bs head tail ih =>
      rw [List.pairwise_cons] at hsorted ⊢
      refine ⟨fun b' hb' => ?_, ih hsorted.2⟩
      obtain ⟨a', ha', hrelated⟩ := Outcome.exists_left_of_mem tail hb'
      rw [← hkey a b head, ← hkey a' b' hrelated]
      exact hsorted.1 a' ha'
  have heq : bs' = sorted' := by
    refine List.Perm.eq_of_pairwise (fun a b _ _ hab hba => ?_) hpairwise hsorted'
      (hbs'.trans hperm'.symm)
    exact absurd (String.lt_trans hab hba) (String.lt_irrefl _)
  exact heq ▸ hall'

end UpToOrder

theorem nodup_of_ascending {k : α → String} {as : List α}
    (h : as.Pairwise (fun a b => k a < k b)) : (as.map k).Nodup := by
  rw [List.Nodup, List.pairwise_map]
  refine h.imp fun {a b} hless heq => ?_
  rw [heq] at hless
  exact String.lt_irrefl _ hless

/-- Lists of ascending keys match place by place if each value of the one is related to a value of
the other. -/
theorem forall₂_of_ascending {k : α → String} {l : β → String} {as : List α} {bs : List β}
    (hkey : ∀ a b, R a b → k a = l b) (hright : ∀ a ∈ as, ∃ b ∈ bs, R a b)
    (hleft : ∀ b ∈ bs, ∃ a ∈ as, R a b) (has : as.Pairwise (fun a b => k a < k b))
    (hbs : bs.Pairwise (fun a b => l a < l b)) : List.Forall₂ R as bs := by
  have hmem : ∀ key, key ∈ as.map k ↔ key ∈ bs.map l := by
    intro key
    simp only [List.mem_map]
    constructor
    · rintro ⟨a, ha, rfl⟩
      obtain ⟨b, hb, hab⟩ := hright a ha
      exact ⟨b, hb, (hkey a b hab).symm⟩
    · rintro ⟨b, hb, rfl⟩
      obtain ⟨a, ha, hab⟩ := hleft b hb
      exact ⟨a, ha, hkey a b hab⟩
  have hperm : (as.map k).Perm (bs.map l) :=
    (List.perm_ext_iff_of_nodup (nodup_of_ascending has) (nodup_of_ascending hbs)).mpr hmem
  have hkeys : as.map k = bs.map l := by
    refine List.Perm.eq_of_pairwise (fun a b _ _ hab hba => ?_)
      (List.pairwise_map.mpr has) (List.pairwise_map.mpr hbs) hperm
    exact absurd (String.lt_trans hab hba) (String.lt_irrefl _)
  have hall : List.Forall₂ (fun a b => k a = l b) as bs := by
    rw [← List.forall₂_eq_eq_eq, List.forall₂_map_left_iff, List.forall₂_map_right_iff] at hkeys
    exact hkeys
  obtain ⟨hlength, hzip⟩ := List.forall₂_iff_zip.mp hall
  refine List.forall₂_iff_zip.mpr ⟨hlength, fun {a b} hab => ?_⟩
  obtain ⟨ha, hb⟩ := List.of_mem_zip hab
  obtain ⟨b', hb', hrelated⟩ := hright a ha
  have hsame : l b' = l b := (hkey a b' hrelated).symm.trans (hzip hab)
  exact List.inj_on_of_nodup_map (nodup_of_ascending hbs) hb' hb hsame ▸ hrelated

end ClientGen
