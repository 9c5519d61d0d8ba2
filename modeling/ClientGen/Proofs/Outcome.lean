import Mathlib.Data.List.Forall2

/-!
Steps that may fail: when a chain of steps and a walk over a list succeed.
-/
namespace ClientGen.Outcome

variable {ε α β : Type}

instance decidableEqExcept [DecidableEq ε] [DecidableEq α] : DecidableEq (Except ε α)
  | .ok a, .ok b => decidable_of_iff (a = b) (by simp)
  | .error a, .error b => decidable_of_iff (a = b) (by simp)
  | .ok _, .error _ => isFalse (by simp)
  | .error _, .ok _ => isFalse (by simp)

/-- What a step gives that does not fail. -/
def value (step : Except ε α) (h : step.toOption.isSome = true) : α := step.toOption.get h

theorem eq_ok_value (step : Except ε α) (h : step.toOption.isSome = true) :
    step = .ok (value step h) := by
  cases step with
  | error failure => cases h
  | ok a => rfl

theorem bind_eq_ok {first : Except ε α} {second : α → Except ε β} {b : β} :
    first >>= second = .ok b ↔ ∃ a, first = .ok a ∧ second a = .ok b := by
  cases first <;> simp [Bind.bind, Except.bind]

theorem bind_eq_error {first : Except ε α} {second : α → Except ε β} {e : ε} :
    first >>= second = .error e ↔
      first = .error e ∨ ∃ a, first = .ok a ∧ second a = .error e := by
  cases first <;> simp [Bind.bind, Except.bind]

theorem pure_eq_ok {a b : α} : (pure a : Except ε α) = .ok b ↔ a = b := by
  simp [pure, Except.pure]

theorem map_eq_ok {step : Except ε α} {f : α → β} {b : β} :
    step.map f = .ok b ↔ ∃ a, step = .ok a ∧ f a = b := by
  cases step <;> simp [Except.map]

/-- A walk over a list succeeds exactly when every step of it does. -/
theorem mapM_eq_ok {f : α → Except ε β} {as : List α} {bs : List β} :
    as.mapM f = .ok bs ↔ List.Forall₂ (fun a b => f a = .ok b) as bs := by
  induction as generalizing bs with
  | nil => cases bs <;> simp [pure_eq_ok]
  | cons a as ih =>
    rw [List.mapM_cons]
    cases bs <;> simp [bind_eq_ok, pure_eq_ok, ih, -bind_pure_comp]

theorem mapM_congr {f g : α → Except ε β} {as : List α} (h : ∀ a ∈ as, f a = g a) :
    as.mapM f = as.mapM g := by
  induction as with
  | nil => rfl
  | cons a as ih =>
    obtain ⟨ha, has⟩ := List.forall_mem_cons.mp h
    rw [List.mapM_cons, List.mapM_cons, ha, ih has]

theorem exists_left_of_mem {R : α → β → Prop} {as : List α} {bs : List β}
    (h : List.Forall₂ R as bs) {b : β} (hb : b ∈ bs) : ∃ a ∈ as, R a b := by
  induction h with
  | nil => simp at hb
  | cons head _ ih =>
    rcases List.mem_cons.mp hb with rfl | hb
    · exact ⟨_, List.mem_cons_self, head⟩
    · obtain ⟨a, ha, hab⟩ := ih hb
      exact ⟨a, List.mem_cons_of_mem _ ha, hab⟩

theorem exists_right_of_mem {R : α → β → Prop} {as : List α} {bs : List β}
    (h : List.Forall₂ R as bs) {a : α} (ha : a ∈ as) : ∃ b ∈ bs, R a b := by
  obtain ⟨b, hb, hab⟩ := exists_left_of_mem (R := flip R) h.flip ha
  exact ⟨b, hb, hab⟩

theorem forall₂_append_left {R : α → β → Prop} {as as' : List α} {bs : List β}
    (h : List.Forall₂ R (as ++ as') bs) :
    ∃ cs ds, List.Forall₂ R as cs ∧ List.Forall₂ R as' ds ∧ bs = cs ++ ds := by
  refine ⟨bs.take as.length, bs.drop as.length, ?_, ?_, (List.take_append_drop ..).symm⟩
  · simpa using List.forall₂_take as.length h
  · simpa using List.forall₂_drop as.length h

/-- Two relations place by place are one, through the list between. -/
theorem forall₂_comp {γ : Type} {R : α → β → Prop} {S : β → γ → Prop} {T : α → γ → Prop}
    {as : List α} {bs : List β} {cs : List γ} (h : List.Forall₂ R as bs)
    (h' : List.Forall₂ S bs cs) (through : ∀ a b c, R a b → S b c → T a c) :
    List.Forall₂ T as cs := by
  induction h generalizing cs with
  | nil =>
    cases h'
    exact .nil
  | cons head _ ih =>
    cases h' with
    | cons head' tail' => exact .cons (through _ _ _ head head') (ih tail')

/-- What a walk gives comes from some place of the list. -/
theorem exists_of_mem_mapM {f : α → Except ε β} {as : List α} {bs : List β}
    (h : as.mapM f = .ok bs) {b : β} (hb : b ∈ bs) : ∃ a ∈ as, f a = .ok b :=
  exists_left_of_mem (mapM_eq_ok.mp h) hb

/-- Every place of the list gives something to the result of a walk. -/
theorem exists_mem_of_mapM {f : α → Except ε β} {as : List α} {bs : List β}
    (h : as.mapM f = .ok bs) {a : α} (ha : a ∈ as) : ∃ b ∈ bs, f a = .ok b :=
  exists_right_of_mem (mapM_eq_ok.mp h) ha

/-- A walk gives something exactly when every step of it does. -/
theorem exists_mapM_iff {f : α → Except ε β} {as : List α} :
    (∃ bs, as.mapM f = .ok bs) ↔ ∀ a ∈ as, ∃ b, f a = .ok b := by
  constructor
  · rintro ⟨bs, hbs⟩ a ha
    obtain ⟨b, -, hb⟩ := exists_mem_of_mapM hbs ha
    exact ⟨b, hb⟩
  · intro h
    induction as with
    | nil => exact ⟨[], rfl⟩
    | cons a as ih =>
      obtain ⟨⟨b, hb⟩, has⟩ := List.forall_mem_cons.mp h
      obtain ⟨bs, hbs⟩ := ih has
      exact ⟨b :: bs, mapM_eq_ok.mpr (.cons hb (mapM_eq_ok.mp hbs))⟩

/-- Two walks over a list whose steps give the same give the same. -/
theorem mapM_ok_unique {f g : α → Except ε β} {as : List α} {bs cs : List β}
    (hf : as.mapM f = .ok bs) (hg : as.mapM g = .ok cs)
    (hstep : ∀ a b c, f a = .ok b → g a = .ok c → b = c) : bs = cs := by
  have hleft := mapM_eq_ok.mp hf
  have hright := mapM_eq_ok.mp hg
  clear hf hg
  induction hleft generalizing cs with
  | nil =>
    cases hright
    rfl
  | cons head _ ih =>
    cases hright with
    | cons head' tail' => rw [hstep _ _ _ head head', ih tail']

end ClientGen.Outcome
