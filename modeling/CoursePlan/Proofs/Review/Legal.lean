import CoursePlan.Proofs.Requisite.Demands
import CoursePlan.Proofs.Review.Findings

/-!
# Legal plans

A plan is *legal* when every placed course that is said to have requirements has them honoured by
the plan.  Legality speaks about terms, placements and the parsed requisite texts only; it knows
nothing of findings, severities or repeats.

The main statement is `Plan.isValid_review_iff_legal`: a review calls a plan valid exactly when it
is legal.  Its core is a statement about one course, `Plan.forall_mem_check_iff`: the rules find no
error about a course exactly when the plan honours all of its requirements.
-/

namespace CoursePlan

/-! ## Where codes are placed -/

namespace Plan

/-- Some term holds a course with the code. -/
def Placed (p : Plan) (code : CourseCode) : Prop :=
  ∃ t ∈ p.terms, ∃ q ∈ t.placements, q.course.code = code

/-- Some term before the one with the given index holds a course with the code. -/
def PlacedBefore (p : Plan) (index : Nat) (code : CourseCode) : Prop :=
  ∃ t ∈ p.terms, t.index < index ∧ ∃ q ∈ t.placements, q.course.code = code

variable {p : Plan} {index : Nat} {code : CourseCode}

/-- The codes of the plan are those that are placed. -/
theorem mem_allCodes : code ∈ p.allCodes ↔ p.Placed code := by
  simp only [allCodes, Placed, Term.codes, List.mem_flatMap, List.mem_map]

/-- The codes before a term are those that are placed in an earlier one. -/
theorem mem_codesBefore : code ∈ p.codesBefore index ↔ p.PlacedBefore index code := by
  simp only [codesBefore, PlacedBefore, Term.codes, List.mem_flatMap, List.mem_filter,
    List.mem_map, decide_eq_true_eq, and_assoc]

/-! ## Legality -/

/-- The plan honours a demand that a course with the code `own` makes in the term with the given
index.  Levels and corequisites are advice and bind nobody. -/
def Honours (p : Plan) (index : Nat) (own : CourseCode) : Demand → Prop
  | .courses (some .any) codes => ∃ code ∈ codes, p.PlacedBefore index code
  | .courses (some .all) codes => ∀ code ∈ codes, p.PlacedBefore index code
  | .courses none codes => ∀ code ∈ codes, p.PlacedBefore index code
  | .antirequisite codes => ∀ code ∈ codes, code ≠ own → ¬ p.Placed code
  | .corequisite _ => True
  | .level _ _ => True

/-- Every placed course that is said to have requirements has all of them honoured. -/
def Legal (p : Plan) : Prop :=
  ∀ t ∈ p.terms, ∀ q ∈ t.placements, q.course.hasRequirements = true →
    ∀ r ∈ (Requirements.parse q.course.requisites).items,
      p.Honours t.index q.course.code r.demand

instance (p : Plan) (code : CourseCode) : Decidable (p.Placed code) :=
  inferInstanceAs (Decidable (∃ t ∈ p.terms, ∃ q ∈ t.placements, q.course.code = code))

instance (p : Plan) (index : Nat) (code : CourseCode) : Decidable (p.PlacedBefore index code) :=
  inferInstanceAs (Decidable
    (∃ t ∈ p.terms, t.index < index ∧ ∃ q ∈ t.placements, q.course.code = code))

instance (p : Plan) (index : Nat) (own : CourseCode) :
    (d : Demand) → Decidable (p.Honours index own d)
  | .courses (some .any) codes =>
    inferInstanceAs (Decidable (∃ code ∈ codes, p.PlacedBefore index code))
  | .courses (some .all) codes =>
    inferInstanceAs (Decidable (∀ code ∈ codes, p.PlacedBefore index code))
  | .courses none codes =>
    inferInstanceAs (Decidable (∀ code ∈ codes, p.PlacedBefore index code))
  | .antirequisite codes =>
    inferInstanceAs (Decidable (∀ code ∈ codes, code ≠ own → ¬ p.Placed code))
  | .corequisite _ => .isTrue trivial
  | .level _ _ => .isTrue trivial

instance (p : Plan) : Decidable p.Legal :=
  inferInstanceAs (Decidable (∀ t ∈ p.terms, ∀ q ∈ t.placements,
    q.course.hasRequirements = true → ∀ r ∈ (Requirements.parse q.course.requisites).items,
      p.Honours t.index q.course.code r.demand))

end Plan

/-- A course has the requirements of its text, if it says that it has any. -/
theorem Course.mem_requirements {c : Course} {r : Requirement} :
    r ∈ c.requirements ↔
      c.hasRequirements = true ∧ r ∈ (Requirements.parse c.requisites).items := by
  unfold Course.requirements
  split
  · next h => simp [h]
  · next h => simp [h]

/-! ## Errors about one course -/

namespace Plan

variable {p : Plan} {threshold index : Nat} {c : Course} {r : Requirement}

/-- Completed courses are evaluated as legality has them; the list is never empty, so that the
evaluation of an empty list does not matter. -/
theorem isSatisfied_courses_iff (hr : r ∈ c.requirements) {op : Option Operator}
    {codes : List CourseCode} (hd : r.demand = .courses op codes) (own : CourseCode) :
    r.isSatisfied (p.codesBefore index) (some (Level.ofIndex index)) = true ↔
      p.Honours index own r.demand := by
  have hne : codes ≠ [] :=
    Requirements.codes_ne_nil_of_mem_items (Course.mem_requirements.1 hr).2 hd nofun
  rw [Requirement.isSatisfied, hd]
  cases op with
  | none => simp [Demand.isSatisfied, Honours, mem_codesBefore]
  | some op =>
    cases op with
    | all => simp [Demand.isSatisfied, Honours, mem_codesBefore]
    | any => simp [Demand.isSatisfied, Honours, mem_codesBefore, hne]

/-- The errors among the findings are those about missing prerequisites and conflicts. -/
theorem isError_of_mem_check {before : Option Nat} {f : Finding}
    (hf : f ∈ p.check threshold index c before) :
    f.isError = decide (f.kind = .prerequisite ∨ f.kind = .antirequisite) := by
  rw [Finding.isError, severity_of_mem_check hf]
  cases f.kind <;> rfl

/-- The errors of the sweep are unmet prerequisites and conflicts. -/
theorem isError_of_mem_sweep {threshold : Nat} {f : Finding} (hf : f ∈ p.sweep threshold) :
    f.isError = decide (f.kind = .prerequisite ∨ f.kind = .antirequisite) := by
  obtain ⟨_, -, _, _, -, hcheck⟩ := mem_sweep.1 hf
  exact isError_of_mem_check hcheck

/-- A finding about an unmet requirement is an error only for completed courses. -/
theorem isError_unmetFinding? {f : Finding} (h : unmetFinding? index c r = some f) :
    f.isError = true ↔ ∃ op codes, r.demand = .courses op codes := by
  unfold unmetFinding? at h
  split at h
  · next op codes hd =>
    cases h
    exact iff_of_true rfl ⟨op, codes, hd⟩
  · next l program hd =>
    cases h
    simp [hd, FindingKind.severity]
  · next codes hd =>
    cases h
    simp [hd, FindingKind.severity]
  · cases h

/-- **The rules find no error about a course exactly when all its requirements are honoured.** -/
theorem forall_mem_check_iff {before : Option Nat} :
    (∀ f ∈ p.check threshold index c before, f.isError = false) ↔
      ∀ r ∈ c.requirements, p.Honours index c.code r.demand := by
  constructor
  -- A demand that is not honoured would have been reported, as an unmet requirement or a conflict.
  · intro h r hr
    cases hd : r.demand with
    | courses op codes =>
      rw [← hd, ← isSatisfied_courses_iff hr hd c.code]
      cases hsat : r.isSatisfied (p.codesBefore index) (some (Level.ofIndex index)) with
      | true => rfl
      | false =>
        obtain ⟨f, hfind⟩ : ∃ f, unmetFinding? index c r = some f := by
          rw [unmetFinding?, hd]
          exact ⟨_, rfl⟩
        have hfalse := h f (mem_check.2 (.inr (.inl (mem_unmet.2 ⟨r, hr, hsat, hfind⟩))))
        rw [(isError_unmetFinding? hfind).2 ⟨op, codes, hd⟩] at hfalse
        cases hfalse
    | antirequisite codes =>
      intro other hmem hne hplaced
      have hconflict : conflictFinding c other ∈ p.conflicts c := mem_conflicts.2
        ⟨r, hr, other, mem_excluded.2 ⟨codes, hd, hmem⟩, hne, mem_allCodes.2 hplaced, rfl⟩
      cases h _ (mem_check.2 (.inr (.inr (.inl hconflict))))
    | level l program => trivial
    | corequisite codes => trivial
  · intro h f hf
    rcases mem_check.1 hf with hf | hf | hf | ⟨n, -, hf⟩
    · obtain ⟨t, -, rfl⟩ := mem_duplicates.1 hf
      rfl
    · obtain ⟨r, hr, hunmet, hfind⟩ := mem_unmet.1 hf
      rw [Bool.eq_false_iff]
      intro herror
      obtain ⟨op, codes, hd⟩ := (isError_unmetFinding? hfind).1 herror
      rw [(isSatisfied_courses_iff hr hd c.code).2 (h r hr)] at hunmet
      cases hunmet
    · obtain ⟨r, hr, other, hother, hne, hplaced, -⟩ := mem_conflicts.1 hf
      obtain ⟨codes, hd, hmem⟩ := mem_excluded.1 hother
      have hh := h r hr
      rw [hd] at hh
      exact absurd (mem_allCodes.1 hplaced) (hh other hmem hne)
    · obtain ⟨-, rfl⟩ := mem_overloads.1 hf
      rfl

/-! ## The verdict -/

/-- A plan is legal if every placed course has all of its requirements honoured. -/
theorem legal_iff_forall_requirements :
    p.Legal ↔ ∀ t ∈ p.terms, ∀ q ∈ t.placements, ∀ r ∈ q.course.requirements,
      p.Honours t.index q.course.code r.demand := by
  simp only [Legal, Course.mem_requirements, and_imp]
  constructor
  · intro h t ht q hq r hflag
    exact h t ht q hq hflag r
  · intro h t ht q hq hflag r
    exact h t ht q hq r hflag

/-- The sweep finds no error exactly when the plan is legal. -/
theorem forall_mem_sweep_iff_legal :
    (∀ f ∈ p.sweep threshold, f.isError = false) ↔ p.Legal := by
  rw [legal_iff_forall_requirements]
  constructor
  · intro h t ht q hq
    obtain ⟨rank, hrank⟩ := exists_rank hq
    apply forall_mem_check_iff.1
    intro f hf
    exact h f (mem_sweep.2 ⟨t, ht, q, rank, hrank, hf⟩)
  · intro h f hf
    obtain ⟨t, ht, q, rank, hrank, hcheck⟩ := mem_sweep.1 hf
    have hq : q ∈ t.placements := mem_placements_of_mem_zipIdx hrank
    exact forall_mem_check_iff.2 (h t ht q hq) f hcheck

/-- The verdict of a review is legality, whatever the threshold. -/
theorem isValid_review_iff : (p.review threshold).isValid = true ↔ p.Legal := by
  rw [isValid_review, forall_mem_sweep_iff_legal]

/-- An addition is valid exactly when the plan honours the requirements of the course. -/
theorem isValid_reviewAddition_iff :
    (p.reviewAddition threshold index c).isValid = true ↔
      ∀ r ∈ c.requirements, p.Honours index c.code r.demand := by
  rw [reviewAddition_eq, Report.isValid_ofFindings, forall_mem_check_iff]

/-- **A review calls a plan valid exactly when the plan is legal.**  The threshold does not matter,
and the verdict is also that of the bare sweep, repeats included, from which all findings but
missing prerequisites and conflicts are struck out. -/
theorem isValid_review_iff_legal (p : Plan) (threshold : Nat) :
    ((p.review threshold).isValid = true ↔ p.Legal) ∧
      (Report.ofFindings ((p.sweep threshold).filter (fun f =>
        decide (f.kind = .prerequisite ∨ f.kind = .antirequisite)))).isValid =
          (p.review threshold).isValid := by
  refine ⟨isValid_review_iff, ?_⟩
  rw [Bool.eq_iff_iff, Report.isValid_ofFindings, isValid_review]
  constructor
  · intro h f hf
    obtain ⟨t, -, q, rank, -, hcheck⟩ := mem_sweep.1 hf
    rw [isError_of_mem_check hcheck]
    by_cases hkind : f.kind = .prerequisite ∨ f.kind = .antirequisite
    · have hfalse := h f (List.mem_filter.2 ⟨hf, by simpa using hkind⟩)
      rw [isError_of_mem_check hcheck] at hfalse
      exact hfalse
    · exact decide_eq_false hkind
  · intro h f hf
    exact h f (List.mem_filter.1 hf).1

end Plan

end CoursePlan
