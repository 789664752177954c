import CoursePlan.Distinct
import Mathlib.Data.Finset.Lattice.Lemmas

/-!
# Taking out repeats

Further laws of `firstBy`, which keeps the first member with each key.  It may be done before or
after members are chosen by something that the key tells (`firstBy_filter`), and before or after the
members are turned into others (`firstBy_map`).  It takes one pass, with the keys met so far in a
set (`foldl_keepNew`).  A list of first occurrences is as long as the list just if that has no
repeats (`length_firstOccurrences_eq_iff`), and keeps its order (`pairwise_firstOccurrences`).
-/

namespace CoursePlan

/-- Members may be turned into others before repeats are taken out, or afterwards. -/
theorem firstBy_map {α β γ : Type} [DecidableEq γ] (key : β → γ) (f : α → β) (as : List α) :
    firstBy key (as.map f) = (firstBy (key ∘ f) as).map f := by
  induction as with
  | nil => rfl
  | cons a as ih =>
    rw [List.map_cons, firstBy, firstBy, ih, List.map_cons, List.filter_map]
    rfl

section Keys

variable {α β γ : Type} [DecidableEq β] [DecidableEq γ]

/-- What the key tells can be asked before repeats are taken out as well as afterwards.  It is
enough that the key tells it of the members of the list. -/
theorem firstBy_filter (key : α → β) {p : α → Bool} {as : List α}
    (h : ∀ a ∈ as, ∀ b ∈ as, key a = key b → p a = p b) :
    firstBy key (as.filter p) = (firstBy key as).filter p := by
  induction as with
  | nil => rfl
  | cons a as ih =>
    have ih := ih fun b hb c hc => h b (List.mem_cons_of_mem a hb) c (List.mem_cons_of_mem a hc)
    cases ha : p a with
    | true =>
      rw [List.filter_cons_of_pos ha, firstBy, firstBy, ih, List.filter_cons_of_pos ha,
        List.filter_filter, List.filter_filter]
      simp only [Bool.and_comm]
    | false =>
      have hother : ∀ b ∈ firstBy key as, (p b && decide (key b ≠ key a)) = p b := by
        intro b hb
        have hmem : b ∈ a :: as := List.mem_cons_of_mem a ((firstBy_sublist key as).subset hb)
        by_cases hb : key b = key a
        · rw [h b hmem a List.mem_cons_self hb, ha, Bool.false_and]
        · simp [hb]
      have ha' : ¬p a = true := by simp [ha]
      rw [List.filter_cons_of_neg ha', ih, firstBy, List.filter_cons_of_neg ha', List.filter_filter,
        List.filter_congr hother]

/-- Nothing is taken out of a list that has no key twice. -/
theorem firstBy_of_nodup {key : α → β} {as : List α} (h : (as.map key).Nodup) :
    firstBy key as = as := by
  induction as with
  | nil => rfl
  | cons a as ih =>
    obtain ⟨ha, has⟩ := List.nodup_cons.1 h
    rw [firstBy, ih has, List.filter_eq_self.2]
    intro b hb
    have hne : key b ≠ key a := fun heq => ha (heq ▸ List.mem_map_of_mem hb)
    simp [hne]

/-- Repeats are taken out once and for all. -/
theorem firstBy_firstBy (key : α → β) (as : List α) : firstBy key (firstBy key as) = firstBy key as :=
  firstBy_of_nodup (nodup_map_firstBy key as)

/-- Of a list that follows another one, what is kept are the first members whose key the other one
does not have. -/
theorem firstBy_append (key : α → β) (as bs : List α) :
    firstBy key (as ++ bs) =
      firstBy key as ++ (firstBy key bs).filter (fun b => as.all fun a => decide (key b ≠ key a)) := by
  induction as with
  | nil => simp [firstBy]
  | cons a as ih =>
    rw [List.cons_append, firstBy, ih, firstBy, List.filter_append, List.filter_filter,
      List.cons_append]
    simp only [List.all_cons]

/-- All that matters of a key is which members have the same. -/
theorem firstBy_congr {key : α → β} {key' : α → γ} (h : ∀ a b, key a = key b ↔ key' a = key' b)
    (as : List α) : firstBy key as = firstBy key' as := by
  induction as with
  | nil => rfl
  | cons a as ih =>
    have hkey : ∀ b, decide (key b ≠ key a) = decide (key' b ≠ key' a) := by
      intro b
      rw [decide_eq_decide, ne_eq, ne_eq, h b a]
    rw [firstBy, firstBy, ih]
    simp only [hkey]

/-! ### One pass -/

/-- One step of a pass through a list, with the keys met so far and the members kept so far: a
member with a new key is kept, and its key is noted. -/
def keepNew (key : α → β) (state : Finset β × List α) (a : α) : Finset β × List α :=
  if key a ∈ state.1 then state else (insert (key a) state.1, state.2 ++ [a])

/-- A pass that has noted the keys of what it has gone through, and kept the first member with each,
does so with one member more. -/
theorem keepNew_firstBy (key : α → β) (as : List α) (a : α) :
    keepNew key ((as.map key).toFinset, firstBy key as) a =
      (((as ++ [a]).map key).toFinset, firstBy key (as ++ [a])) := by
  rw [firstBy_append, List.map_append, List.toFinset_append]
  have hkey : key a ∈ as.map key ↔ ∃ b ∈ as, key a = key b := by simp [eq_comm]
  by_cases ha : ∃ b ∈ as, key a = key b
  · simp [keepNew, firstBy, hkey, ha, -List.mem_map]
  · simp [keepNew, firstBy, hkey, ha, List.filter_cons, -List.mem_map]

/-- **One pass is enough**: it notes the keys of the list, and keeps the first member with each. -/
theorem foldl_keepNew (key : α → β) (as : List α) :
    as.foldl (keepNew key) (∅, []) = ((as.map key).toFinset, firstBy key as) := by
  induction as using List.reverseRecOn with
  | nil => rfl
  | append_singleton as a ih =>
    rw [List.foldl_append, ih]
    exact keepNew_firstBy key as a

end Keys

section FirstOccurrences

variable {α : Type} [DecidableEq α]

/-- No member is lost with the repeats. -/
theorem mem_firstOccurrences {a : α} {as : List α} : a ∈ firstOccurrences as ↔ a ∈ as := by
  have h := mem_map_firstBy id a as
  rwa [List.map_id, List.map_id] at h

theorem nodup_firstOccurrences (as : List α) : (firstOccurrences as).Nodup := by
  have h := nodup_map_firstBy id as
  rwa [List.map_id] at h

/-- Nothing is taken out of a list that has no repeats. -/
theorem firstOccurrences_of_nodup {as : List α} (h : as.Nodup) : firstOccurrences as = as := by
  apply firstBy_of_nodup
  simpa using h

theorem length_firstOccurrences_le (as : List α) : (firstOccurrences as).length ≤ as.length :=
  (firstBy_sublist id as).length_le

/-- Nothing is taken out of a list exactly when it has no repeats. -/
theorem length_firstOccurrences_eq_iff {as : List α} :
    (firstOccurrences as).length = as.length ↔ as.Nodup := by
  constructor
  · intro h
    rw [← (firstBy_sublist id as).eq_of_length h]
    exact nodup_firstOccurrences as
  · intro h
    rw [firstOccurrences_of_nodup h]

/-- Of two members that are left, the first is there wherever the list has got to the second. -/
theorem pairwise_firstOccurrences (as : List α) :
    (firstOccurrences as).Pairwise fun a b =>
      a ≠ b ∧ ∀ front back, as = front ++ back → b ∈ front → a ∈ front := by
  induction as with
  | nil => exact .nil
  | cons a as ih =>
    refine .cons ?_ ?_
    · intro b hb
      have hne : b ≠ a := of_decide_eq_true (List.mem_filter.1 hb).2
      refine ⟨hne.symm, ?_⟩
      intro front back heq hmem
      cases front with
      | nil => cases hmem
      | cons x front =>
        cases heq
        exact List.mem_cons_self
    · refine (ih.filter _).imp_of_mem ?_
      intro x y _ hy h
      have hne : y ≠ a := of_decide_eq_true (List.mem_filter.1 hy).2
      refine ⟨h.1, ?_⟩
      intro front back heq hmem
      cases front with
      | nil => cases hmem
      | cons z front =>
        cases heq
        rcases List.mem_cons.1 hmem with rfl | hmem
        · exact absurd rfl hne
        · exact List.mem_cons_of_mem a (h.2 front back rfl hmem)

end FirstOccurrences

end CoursePlan
