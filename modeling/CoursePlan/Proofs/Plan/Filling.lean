import CoursePlan.Proofs.Plan.Placing
import Mathlib.Data.List.Induction

/-!
# Filling a plan

A plan that is filled by placing courses only is determined by which courses each term got, in which
order (`Plan.filled`): placing one more course adds it to the courses of its term
(`Plan.placing_filled`), and the courses of a term are numbered from 0 on in the order in which they
were placed, as far as 32-bit numbers go (`Term.positions_addAll_empty`).
-/

namespace CoursePlan

namespace Term

/-- The positions in a term, in the order of placing. -/
def positions (t : Term) : List Nat :=
  t.placements.map (fun q => q.position.toNat)

/-- The term with some more courses, placed one after another. -/
def addAll (t : Term) (cs : List Course) : Term :=
  cs.foldl add t

variable {t : Term} {n : Nat}

@[simp] theorem addAll_nil (t : Term) : t.addAll [] = t := rfl

theorem addAll_concat (t : Term) (cs : List Course) (c : Course) :
    t.addAll (cs ++ [c]) = (t.addAll cs).add c := by
  rw [addAll, List.foldl_append]
  rfl

@[simp] theorem index_addAll (t : Term) (cs : List Course) : (t.addAll cs).index = t.index := by
  induction cs using List.reverseRecOn with
  | nil => rfl
  | append_singleton cs c ih => rw [addAll_concat, index_add, ih]

@[simp] theorem label_addAll (t : Term) (cs : List Course) : (t.addAll cs).label = t.label := by
  induction cs using List.reverseRecOn with
  | nil => rfl
  | append_singleton cs c ih =>
    rw [addAll_concat]
    exact ih

@[simp] theorem courses_addAll (t : Term) (cs : List Course) :
    (t.addAll cs).courses = t.courses ++ cs := by
  induction cs using List.reverseRecOn with
  | nil => rw [addAll_nil, List.append_nil]
  | append_singleton cs c ih => rw [addAll_concat, courses_add, ih, List.append_assoc]

/-- Where positions count from 0, the next position goes on counting, up to the last number. -/
theorem toNat_nextPosition_of_positions
    (h : t.positions = (List.range n).map (fun k => min k Numeral.max32)) :
    t.nextPosition.toNat = min n Numeral.max32 := by
  have hbelow : ∀ q ∈ t.placements, q.position.toNat < n := by
    intro q hq
    have hmem : q.position.toNat ∈ t.positions := List.mem_map_of_mem hq
    rw [h, List.mem_map] at hmem
    obtain ⟨k, hk, hq⟩ := hmem
    rw [List.mem_range] at hk
    omega
  apply Nat.le_antisymm
  · exact Nat.le_min.2 ⟨toNat_nextPosition_le hbelow, Nat.le_of_lt_succ t.nextPosition.toNat_lt⟩
  · cases n with
    | zero => exact Nat.zero_le _
    | succ m =>
      -- the last course that has a successor, and which is the last one unless numbers run out
      have hmem : min m (Numeral.max32 - 1) ∈ t.positions := by
        rw [h, List.mem_map]
        refine ⟨min m (Numeral.max32 - 1), List.mem_range.2 ?_, ?_⟩
        · omega
        · omega
      obtain ⟨q, hq, hposition⟩ := List.mem_map.1 hmem
      have hmax : 0 < Numeral.max32 := by decide
      have hlt := toNat_position_lt_nextPosition hq (by omega)
      omega

/-- **Courses that are placed one after another are numbered from 0 on.** -/
theorem positions_addAll_empty (index : Nat) (cs : List Course) :
    ((empty index).addAll cs).positions =
      (List.range cs.length).map (fun k => min k Numeral.max32) := by
  induction cs using List.reverseRecOn with
  | nil => rfl
  | append_singleton cs c ih =>
    have hnext := toNat_nextPosition_of_positions ih
    rw [addAll_concat, List.length_append, List.length_singleton, List.range_succ, List.map_append,
      ← ih]
    simp only [positions, add, List.map_append, List.map_singleton]
    rw [← positions, hnext]

end Term

/-! ## Plans by the courses in their terms -/

/-- Courses in each term, of which the term with an index gets some more. -/
def addedAt (courses : Nat → List Course) (index : Nat) (cs : List Course) : Nat → List Course :=
  fun i => if i = index then courses i ++ cs else courses i

@[simp] theorem addedAt_nil (courses : Nat → List Course) (index : Nat) :
    addedAt courses index [] = courses := by
  funext i
  simp [addedAt]

/-- Courses that are added to one term one after the other may be added together. -/
theorem addedAt_addedAt (courses : Nat → List Course) (index : Nat) (cs ds : List Course) :
    addedAt (addedAt courses index cs) index ds = addedAt courses index (cs ++ ds) := by
  funext i
  by_cases h : i = index
  · simp [addedAt, h]
  · simp [addedAt, h]

namespace Plan

/-- The plan in which some courses were placed in each term, one after another. -/
def filled (name : String) (courses : Nat → List Course) : Plan where
  name := name
  terms := (List.range termCount).map (fun i => (Term.empty i).addAll (courses i))
  ordered := by simp [Function.comp_def, Term.empty]

variable {name : String} {courses : Nat → List Course} {index : Nat}

/-- A term of a plan that was filled has the courses meant for it. -/
theorem term?_filled (h : index < termCount) :
    (filled name courses).term? index = some ((Term.empty index).addAll (courses index)) := by
  simp [term?, filled, h]

/-- Placing a course adds it to the courses of its term. -/
theorem placing_filled (c : Course) :
    (filled name courses).placing index c = filled name (addedAt courses index [c]) := by
  have hterms : ((filled name courses).placing index c).terms =
      (filled name (addedAt courses index [c])).terms := by
    rw [terms_placing]
    simp only [filled, List.map_map]
    apply List.map_congr_left
    intro i _
    have hi : ((Term.empty i).addAll (courses i)).index = i := Term.index_addAll _ _
    rw [Function.comp_apply, hi, addedAt]
    split
    · exact (Term.addAll_concat _ _ c).symm
    · rfl
  simp only [filled, placing, modifyTerm] at hterms ⊢
  simp only [hterms]

end Plan

end CoursePlan
