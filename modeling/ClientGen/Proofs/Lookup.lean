import Mathlib.Data.List.Nodup

/-!
Lookups in lists of keys with values, where the first entry of a key counts.
-/
namespace ClientGen

variable {α β : Type} [BEq α] {key : α} {value : β} {entries : List (α × β)}

theorem lookup_append_of_some {later : List (α × β)} (h : entries.lookup key = some value) :
    (entries ++ later).lookup key = some value := by
  rw [List.lookup_append, h]
  rfl

variable [LawfulBEq α]

theorem mem_of_lookup (h : entries.lookup key = some value) : (key, value) ∈ entries := by
  obtain ⟨before, after, rfl, -⟩ := List.lookup_eq_some_iff.mp h
  simp

theorem isSome_lookup_of_mem (h : (key, value) ∈ entries) :
    ∃ first, entries.lookup key = some first := by
  rw [← Option.isSome_iff_exists, List.lookup_isSome_iff]
  exact ⟨(key, value), h, by simp⟩

/-- With distinct keys every entry counts. -/
theorem lookup_of_mem (distinct : (entries.map (·.1)).Nodup) (h : (key, value) ∈ entries) :
    entries.lookup key = some value := by
  obtain ⟨first, hfirst⟩ := isSome_lookup_of_mem h
  have hsame := List.inj_on_of_nodup_map distinct (mem_of_lookup hfirst) h rfl
  rw [hfirst, (Prod.mk.inj hsame).2]

theorem lookup_of_not_mem (h : key ∉ entries.map (·.1)) : entries.lookup key = none := by
  cases hfound : entries.lookup key with
  | none => rfl
  | some value => exact absurd (List.mem_map_of_mem (mem_of_lookup hfound)) h

theorem lookup_singleton_of_ne {other : α} (h : key ≠ other) :
    [(other, value)].lookup key = none :=
  lookup_of_not_mem (by simpa using h)

theorem lookup_append_of_ne {other : α} (h : key ≠ other) :
    (entries ++ [(other, value)]).lookup key = entries.lookup key := by
  rw [List.lookup_append, lookup_singleton_of_ne h, Option.or_none]

end ClientGen
