/-!
# First occurrences

Lists of course codes and of findings are shown without repeats, in the order in which their
members first came up.  What counts as a repeat is decided by a *key* of the member.

What is left after taking out repeats is part of the list in the same order (`firstBy_sublist`), has
every key only once (`nodup_map_firstBy`), lacks no key (`mem_map_firstBy`), and is in each case the
first member with the key (`mem_firstBy`).
-/

namespace CoursePlan

/-- The members of a list whose key no earlier member has, in order. -/
def firstBy {α β : Type} [DecidableEq β] (key : α → β) : List α → List α
  | [] => []
  | a :: as => a :: (firstBy key as).filter (fun b => decide (key b ≠ key a))

theorem firstBy_sublist {α β : Type} [DecidableEq β] (key : α → β) :
    ∀ as : List α, (firstBy key as).Sublist as
  | [] => .slnil
  | a :: as => ((List.filter_sublist).trans (firstBy_sublist key as)).cons_cons a

theorem mem_map_firstBy {α β : Type} [DecidableEq β] (key : α → β) (k : β) :
    ∀ as : List α, k ∈ (firstBy key as).map key ↔ k ∈ as.map key
  | [] => Iff.rfl
  | a :: as => by
    rw [firstBy, List.map_cons, List.map_cons, List.mem_cons, List.mem_cons]
    by_cases hk : k = key a
    · simp [hk]
    · have ih := mem_map_firstBy key k as
      simp only [List.mem_map] at ih
      simp only [hk, false_or, List.mem_map, List.mem_filter, decide_eq_true_eq]
      rw [← ih]
      constructor
      · rintro ⟨b, ⟨hb, _⟩, rfl⟩
        exact ⟨b, hb, rfl⟩
      · rintro ⟨b, hb, rfl⟩
        exact ⟨b, ⟨hb, hk⟩, rfl⟩

theorem nodup_map_firstBy {α β : Type} [DecidableEq β] (key : α → β) :
    ∀ as : List α, ((firstBy key as).map key).Nodup
  | [] => List.nodup_nil
  | a :: as => by
    rw [firstBy, List.map_cons, List.nodup_cons]
    constructor
    · simp
    · exact ((List.filter_sublist).map key).nodup (nodup_map_firstBy key as)

/-- What is left is what comes first in the list with its key. -/
theorem mem_firstBy {α β : Type} [DecidableEq β] (key : α → β) (a : α) :
    ∀ as : List α, a ∈ firstBy key as ↔ as.find? (fun b => decide (key b = key a)) = some a
  | [] => by simp [firstBy]
  | b :: as => by
    have ih := mem_firstBy key a as
    rw [firstBy, List.mem_cons, List.mem_filter, ih, List.find?_cons]
    by_cases hb : key b = key a
    · simp [hb, eq_comm]
    · have hne : a ≠ b := fun h => hb (h ▸ rfl)
      simp [hb, hne, Ne.symm hb]

/-- The first occurrence of every member of a list, in order. -/
def firstOccurrences {α : Type} [DecidableEq α] (as : List α) : List α :=
  firstBy id as

end CoursePlan
