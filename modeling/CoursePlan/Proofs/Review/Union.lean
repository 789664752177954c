import CoursePlan.Proofs.Review.Committing
import CoursePlan.Proofs.Review.Repeats

/-!
# A review is the union of its additions

The review of a plan checks every placed course as if it were being added.  What it shows is exactly
what the reviews of these additions show, one finding for each key (`Plan.review_union`).  Only
overloads are different, as they count the courses of the term: an addition comes after all of them,
a placed course after those displayed before it.

Errors and warnings are kept apart, and each list is rid of repeats by itself.  As the key of what a
sweep finds decides which list it goes to, the lists together still show a key only once.
-/

namespace CoursePlan

namespace Plan

variable {p : Plan} {threshold index : Nat} {c : Course} {f : Finding}

/-! ## What the sweep finds -/

/-- A review shows the first finding of every key. -/
theorem mem_findings_review :
    f ∈ (p.review threshold).findings ↔
      (p.sweep threshold).find? (fun g => decide (g.key = f.key)) = some f := by
  rw [review_eq, Report.mem_findings_dedup fun _ hf _ hg => isError_eq_of_mem_sweep hf hg]
  exact mem_firstBy Finding.key f _

/-- Other findings than overloads do not depend on how many courses come before. -/
theorem mem_check_of_kind_ne (hkind : f.kind ≠ .overload) {before : Option Nat} :
    f ∈ p.check threshold index c before ↔ f ∈ p.check threshold index c none := by
  have hnot : ∀ {count : Nat}, f ∉ overloads threshold count c := by
    intro count h
    exact hkind (kind_of_mem_overloads h)
  simp only [mem_check, hnot, and_false, exists_false, or_false]

/-- Other findings than overloads are found about each placed course by itself, at any rank. -/
theorem mem_checkTerm_of_kind_ne (hkind : f.kind ≠ .overload) {t : Term} :
    f ∈ p.checkTerm threshold t ↔
      ∃ q ∈ t.placements, f ∈ p.check threshold t.index q.course none := by
  simp only [checkTerm, List.mem_flatMap, Prod.exists]
  constructor
  · rintro ⟨q, rank, hrank, hf⟩
    exact ⟨q, mem_placements_of_mem_zipIdx hrank, (mem_check_of_kind_ne hkind).1 hf⟩
  · rintro ⟨q, hq, hf⟩
    obtain ⟨rank, hrank⟩ := exists_rank hq
    exact ⟨q, rank, hrank, (mem_check_of_kind_ne hkind).2 hf⟩

/-! ## The union -/

/-- **The review of a plan is the union of the reviews of its courses as additions.**  It shows no
key twice, and apart from overloads it shows exactly the keys of what is found when each placed
course is added once more to its own term. -/
theorem review_union (p : Plan) (threshold : Nat) :
    (p.review threshold).keys.Nodup ∧
      ∀ k : CourseCode × FindingKind × String, k.2.1 ≠ .overload →
        (k ∈ (p.review threshold).keys ↔ ∃ t ∈ p.terms, ∃ q ∈ t.placements,
          k ∈ (p.reviewAddition threshold t.index q.course).keys) := by
  constructor
  · rw [review_eq]
    exact Report.nodup_keys_dedup fun _ hf _ hg => isError_eq_of_mem_sweep hf hg
  · intro k hk
    simp only [mem_keys_review, mem_keys_reviewAddition, sweep, List.mem_flatMap]
    constructor
    · rintro ⟨f, ⟨t, ht, hf⟩, rfl⟩
      obtain ⟨q, hq, hcheck⟩ := (mem_checkTerm_of_kind_ne hk).1 hf
      exact ⟨t, ht, q, hq, f, (mem_check_of_kind_ne hk).2 hcheck, rfl⟩
    · rintro ⟨t, ht, q, hq, f, hcheck, rfl⟩
      have hfound := (mem_check_of_kind_ne hk).1 hcheck
      exact ⟨f, ⟨t, ht, (mem_checkTerm_of_kind_ne hk).2 ⟨q, hq, hfound⟩⟩, rfl⟩

/-- The key of the conflict between `ECE 250` and `CS 241`. -/
def conflictKey : CourseCode × FindingKind × String :=
  (excludingCourse.code, .antirequisite, "Cannot take with CS 241")

/-- The conflict in the plan with `ECE 250` and `CS 241`, which it excludes. -/
theorem review_union_excluded :
    (conflictKey.2.1 ≠ .overload ∧
      conflictKey ∈ ((excludingPlan.placing 1 excludedCourse).review 6).keys) ∧
    ((excludingPlan.placing 1 excludedCourse).review 6).keys.Nodup ∧
    ∃ t ∈ (excludingPlan.placing 1 excludedCourse).terms, ∃ q ∈ t.placements,
      conflictKey ∈
        ((excludingPlan.placing 1 excludedCourse).reviewAddition 6 t.index q.course).keys := by
  have hkind : conflictKey.2.1 ≠ .overload := by decide
  have hkey : conflictKey ∈ ((excludingPlan.placing 1 excludedCourse).review 6).keys := by
    decide +kernel
  obtain ⟨hnodup, hunion⟩ := review_union (excludingPlan.placing 1 excludedCourse) 6
  exact ⟨⟨hkind, hkey⟩, hnodup, (hunion conflictKey hkind).1 hkey⟩

end Plan

end CoursePlan
