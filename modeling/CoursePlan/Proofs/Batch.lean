import CoursePlan.Batch
import Mathlib.Data.List.Basic

/-!
# Batches in any order

Tasks finish in some order, each of them once.  If all of them succeed, their results are gathered
in the order of the tasks (`Batch.gather_eq_ok`); if some fail, so does the batch, with the failure
of one of them (`Batch.gather_eq_error`).

The invariant of filling the slots is `Batch.Filled`: the slots whose tasks are still pending are
empty, and the others hold their results.
-/

namespace CoursePlan.Batch

variable {ε α : Type}

/-- Results with the numbers of their tasks. -/
def numbered (outcomes : List (Except ε α)) : List (Nat × Except ε α) :=
  outcomes.zipIdx.map Prod.swap

/-- A result is listed with the number of its task. -/
theorem mem_numbered {outcomes : List (Except ε α)} {i : Nat} {r : Except ε α} :
    (i, r) ∈ numbered outcomes ↔ outcomes[i]? = some r := by
  simp [numbered, List.mem_zipIdx_iff_getElem?]

/-- Every task is listed once, in the order of the tasks. -/
theorem map_fst_numbered (outcomes : List (Except ε α)) :
    (numbered outcomes).map Prod.fst = List.range outcomes.length := by
  rw [numbered, List.map_map, List.range_eq_range']
  exact List.zipIdx_map_snd ..

/-! ## Filling the slots -/

/-- The slots hold the results of all tasks but the pending ones, whose slots are empty. -/
def Filled (results : List α) (pending : List Nat) (slots : List (Option α)) : Prop :=
  ∀ i, slots[i]? = results[i]?.map fun a => if i ∈ pending then none else some a

variable {results : List α} {pending : List Nat} {slots : List (Option α)}
  {finished : List (Nat × Except ε α)}

/-- As long as all tasks are pending, empty slots are filled as they should be. -/
theorem filled_replicate (h : ∀ i < results.length, i ∈ pending) :
    Filled results pending (List.replicate results.length none) := by
  intro i
  rw [List.getElem?_replicate]
  split
  · next hi => rw [List.getElem?_eq_getElem hi, Option.map_some, if_pos (h i hi)]
  · next hi => rw [List.getElem?_eq_none (Nat.le_of_not_lt hi), Option.map_none]

/-- A result that comes in fills its slot, and its task is no longer pending. -/
theorem Filled.set {j : Nat} {a : α} (h : Filled results (j :: pending) slots)
    (hj : results[j]? = some a) (hfresh : j ∉ pending) :
    Filled results pending (slots.set j (some a)) := by
  intro i
  by_cases hij : j = i
  · subst hij
    have hslot := h j
    rw [hj] at hslot
    rw [List.getElem?_set_self', hslot, hj]
    simp [hfresh]
  · rw [List.getElem?_set_ne hij, h i]
    simp [Ne.symm hij]

/-- When nothing is pending any more, every slot holds its result. -/
theorem Filled.eq_map (h : Filled results [] slots) : slots = results.map some := by
  apply List.ext_getElem?
  intro i
  rw [h i, List.getElem?_map]
  simp

/-- When all tasks that are pending come in, once each, all slots are filled. -/
theorem fill_eq_ok (h : Filled results (finished.map Prod.fst) slots)
    (hresults : ∀ i r, (i, r) ∈ finished → ∃ a, results[i]? = some a ∧ r = .ok a)
    (hnodup : (finished.map Prod.fst).Nodup) :
    fill slots finished = .ok (results.map some) := by
  -- what is pending at each step are the numbers of what is still to come in
  induction finished generalizing slots with
  | nil => rw [fill, Filled.eq_map h]
  | cons entry finished ih =>
    obtain ⟨j, r⟩ := entry
    obtain ⟨a, hj, rfl⟩ := hresults j r List.mem_cons_self
    rw [List.map_cons, List.nodup_cons] at hnodup
    exact ih (Filled.set h hj hnodup.1) (fun i r hr => hresults i r (List.mem_cons_of_mem _ hr))
      hnodup.2

/-- A failure that comes in ends the filling with the first failure. -/
theorem fill_eq_error (h : ∃ i e, (i, .error e) ∈ finished) (slots : List (Option α)) :
    ∃ i e, (i, .error e) ∈ finished ∧ fill slots finished = .error e := by
  induction finished generalizing slots with
  | nil =>
    obtain ⟨_, _, hmem⟩ := h
    cases hmem
  | cons entry finished ih =>
    cases entry with
    | mk j r =>
      cases r with
      | error e => exact ⟨j, e, List.mem_cons_self, rfl⟩
      | ok a =>
        have hrest : ∃ i e, (i, .error e) ∈ finished := by simpa using h
        obtain ⟨i, e, hmem, hfill⟩ := ih hrest (slots.set j (some a))
        exact ⟨i, e, List.mem_cons_of_mem _ hmem, hfill⟩

/-! ## Gathering -/

/-- **If all tasks succeed, their results are gathered in the order of the tasks.** -/
theorem gather_eq_ok (h : finished.Perm (numbered (results.map .ok))) :
    gather results.length finished = .ok results := by
  -- every number comes in, and none of them twice
  have hnumbers : (finished.map Prod.fst).Perm (List.range results.length) := by
    have hmap := h.map Prod.fst
    rwa [map_fst_numbered, List.length_map] at hmap
  have hpending : ∀ i < results.length, i ∈ finished.map Prod.fst := by
    intro i hi
    exact hnumbers.mem_iff.2 (List.mem_range.2 hi)
  have hresults : ∀ i r, (i, r) ∈ finished → ∃ a, results[i]? = some a ∧ r = .ok a := by
    intro i r hr
    have hi := mem_numbered.1 (h.mem_iff.1 hr)
    rw [List.getElem?_map, Option.map_eq_some_iff] at hi
    obtain ⟨a, ha, rfl⟩ := hi
    exact ⟨a, ha, rfl⟩
  have hfill := fill_eq_ok (filled_replicate hpending) hresults
    (hnumbers.nodup_iff.2 List.nodup_range)
  rw [gather, hfill, Except.map, List.filterMap_map, Function.id_comp, List.filterMap_some]

/-- **If some task fails, so does the batch**, with the failure of one of the tasks. -/
theorem gather_eq_error {outcomes : List (Except ε α)} (h : finished.Perm (numbered outcomes))
    (hfails : ∃ e, .error e ∈ outcomes) (count : Nat) :
    ∃ e, .error e ∈ outcomes ∧ gather count finished = .error e := by
  have hcomes : ∃ i e, (i, .error e) ∈ finished := by
    obtain ⟨e, he⟩ := hfails
    obtain ⟨i, hi⟩ := List.mem_iff_getElem?.1 he
    exact ⟨i, e, h.mem_iff.2 (mem_numbered.2 hi)⟩
  obtain ⟨i, e, hmem, hfill⟩ := fill_eq_error hcomes (List.replicate count none)
  refine ⟨e, List.mem_of_getElem? (mem_numbered.1 (h.mem_iff.1 hmem)), ?_⟩
  rw [gather, hfill]
  rfl

end CoursePlan.Batch
