import Mathlib.Data.List.Forall2

/-!
# Lists that correspond member by member

Two runs are often compared by lists whose members correspond one by one (`List.Forall₂`).  What is
read off such lists in corresponding ways is the same, and sorting them by corresponding orders
keeps the correspondence (`forall₂_mergeSort`).
-/

namespace CoursePlan

variable {α β γ : Type} {R : α → β → Prop} {l : List α} {l' : List β}

/-- Every member of the first list has a counterpart in the second. -/
theorem exists_of_forall₂ {a : α} (h : List.Forall₂ R l l') (ha : a ∈ l) : ∃ b ∈ l', R a b := by
  induction h with
  | nil => cases ha
  | cons hab _ ih =>
    rcases List.mem_cons.1 ha with rfl | ha
    · exact ⟨_, List.mem_cons_self, hab⟩
    · obtain ⟨b, hb, hR⟩ := ih ha
      exact ⟨b, List.mem_cons_of_mem _ hb, hR⟩

/-- What is known of all members of the first list may be used of corresponding members. -/
theorem forall₂_and_mem (h : List.Forall₂ R l l') : List.Forall₂ (fun a b => a ∈ l ∧ R a b) l l' :=
  (List.forall₂_and_left _ _).2 ⟨fun _ ha => ha, h⟩

/-- What counterparts agree on is the same along both lists. -/
theorem map_eq_of_forall₂ {key : α → γ} {key' : β → γ} (hkey : ∀ a b, R a b → key a = key' b)
    (h : List.Forall₂ R l l') : l.map key = l'.map key' := by
  rw [← List.forall₂_eq_eq_eq, List.forall₂_map_left_iff, List.forall₂_map_right_iff]
  exact h.imp hkey

/-- Members correspond where the same is read off them, place by place. -/
theorem forall₂_of_map_eq {key : α → γ} {key' : β → γ} (h : l.map key = l'.map key') :
    List.Forall₂ (fun a b => key a = key' b) l l' := by
  rw [← List.forall₂_eq_eq_eq, List.forall₂_map_left_iff, List.forall₂_map_right_iff] at h
  exact h

/-- Where counterparts give the same lists, so do the two lists as a whole. -/
theorem flatMap_eq_of_forall₂ {f : α → List γ} {f' : β → List γ} (hf : ∀ a b, R a b → f a = f' b)
    (h : List.Forall₂ R l l') : l.flatMap f = l'.flatMap f' := by
  rw [List.flatMap_def, List.flatMap_def, map_eq_of_forall₂ hf h]

/-- Where counterparts pass the same tests, a member passes in both lists or in neither. -/
theorem any_eq_of_forall₂ {p : α → Bool} {p' : β → Bool} (hp : ∀ a b, R a b → p a = p' b)
    (h : List.Forall₂ R l l') : l.any p = l'.any p' := by
  have hmap := congrArg (List.any · id) (map_eq_of_forall₂ hp h)
  simpa only [List.any_map, Function.id_comp] using hmap

/-- Searches for the same find corresponding members, or nothing in both lists. -/
theorem find?_map_eq_of_forall₂ {p : α → Bool} {p' : β → Bool} {key : α → γ} {key' : β → γ}
    (hp : ∀ a b, R a b → p a = p' b) (hkey : ∀ a b, R a b → key a = key' b)
    (h : List.Forall₂ R l l') : (l.find? p).map key = (l'.find? p').map key' := by
  induction h with
  | nil => rfl
  | @cons a b _ _ hab _ ih =>
    rw [List.find?_cons, List.find?_cons, hp a b hab]
    cases p' b with
    | true => exact congrArg some (hkey a b hab)
    | false => exact ih

/-- Where everything of a list yields something, the yields go with the members. -/
theorem forall₂_filterMap {f : α → Option β} (h : ∀ a ∈ l, ∃ b, f a = some b ∧ R a b) :
    List.Forall₂ R l (l.filterMap f) := by
  induction l with
  | nil => exact .nil
  | cons a l ih =>
    obtain ⟨ha, hl⟩ := List.forall_mem_cons.1 h
    obtain ⟨b, hb, hab⟩ := ha
    rw [List.filterMap_cons_some hb]
    exact .cons hab (ih hl)

/-- Corresponding members have the same numbers. -/
theorem forall₂_zipIdx (h : List.Forall₂ R l l') (n : Nat) :
    List.Forall₂ (fun x y => R x.1 y.1 ∧ x.2 = y.2) (l.zipIdx n) (l'.zipIdx n) := by
  induction h generalizing n with
  | nil => exact .nil
  | cons hab _ ih => exact .cons ⟨hab, rfl⟩ (ih (n + 1))

/-- **Sorting keeps a correspondence** under which the two orders agree. -/
theorem forall₂_mergeSort {le : α → α → Bool} {le' : β → β → Bool} (h : List.Forall₂ R l l')
    (hle : ∀ a ∈ l, ∀ b ∈ l, ∀ a' b', R a a' → R b b' → le a b = le' a' b') :
    List.Forall₂ R (l.mergeSort le) (l'.mergeSort le') := by
  obtain ⟨hlength, hpairs⟩ := List.forall₂_iff_zip.1 h
  -- Both lists are sorted at once, as a list of corresponding pairs.
  have hfst : (l.zip l').map Prod.fst = l := List.map_fst_zip (Nat.le_of_eq hlength)
  have hsnd : (l.zip l').map Prod.snd = l' := List.map_snd_zip (Nat.le_of_eq hlength.symm)
  have hleft : ((l.zip l').mergeSort (fun x y => le x.1 y.1)).map Prod.fst = l.mergeSort le := by
    rw [List.map_mergeSort (s := le) (fun _ _ _ _ => rfl), hfst]
  have hright : ((l.zip l').mergeSort (fun x y => le x.1 y.1)).map Prod.snd =
      l'.mergeSort le' := by
    rw [List.map_mergeSort (s := le'), hsnd]
    rintro ⟨a, a'⟩ ha ⟨b, b'⟩ hb
    exact hle a (List.of_mem_zip ha).1 b (List.of_mem_zip hb).1 a' b' (hpairs ha) (hpairs hb)
  rw [← hleft, ← hright, List.forall₂_map_left_iff, List.forall₂_map_right_iff, List.forall₂_same]
  rintro ⟨a, a'⟩ hmem
  exact hpairs (List.mem_mergeSort.1 hmem)

end CoursePlan
