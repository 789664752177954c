import CoursePlan.Proofs.Requisite.Description
import CoursePlan.Proofs.Review.Committing

/-!
# Corequisites in the same term

A corequisite is a course to be taken along, in the same term or before.  A review looks for it in
the terms before only: it reports a corequisite when none of the courses asked for is placed in an
earlier term (`Plan.mem_corequisites_iff`).  Where one of them is in the same term and none in an
earlier one, the report is out of place (`Plan.corequisite_found_iff`).
-/

namespace CoursePlan

/-- The finding that none of the courses that a requirement asks for is taken along. -/
def corequisiteFinding (c : Course) (r : Requirement) : Finding :=
  .new .corequisite c.code ("Corequisite: " ++ r.describe)
    "This course should be taken in the same term or after its corequisites."

namespace Plan

/-- The term with the given index holds a course with the code. -/
def PlacedIn (p : Plan) (index : Nat) (code : CourseCode) : Prop :=
  ∃ t ∈ p.terms, t.index = index ∧ ∃ q ∈ t.placements, q.course.code = code

/-- Some term up to the one with the given index, which is included, holds a course with the
code. -/
def PlacedBy (p : Plan) (index : Nat) (code : CourseCode) : Prop :=
  ∃ t ∈ p.terms, t.index ≤ index ∧ ∃ q ∈ t.placements, q.course.code = code

instance (p : Plan) (index : Nat) (code : CourseCode) : Decidable (p.PlacedIn index code) :=
  inferInstanceAs (Decidable
    (∃ t ∈ p.terms, t.index = index ∧ ∃ q ∈ t.placements, q.course.code = code))

instance (p : Plan) (index : Nat) (code : CourseCode) : Decidable (p.PlacedBy index code) :=
  inferInstanceAs (Decidable
    (∃ t ∈ p.terms, t.index ≤ index ∧ ∃ q ∈ t.placements, q.course.code = code))

variable {p : Plan} {threshold index : Nat} {c : Course} {r : Requirement}
  {codes : List CourseCode}

/-- A code is placed by a term if it is placed before it or in it. -/
theorem placedBy_iff {code : CourseCode} :
    p.PlacedBy index code ↔ p.PlacedBefore index code ∨ p.PlacedIn index code := by
  constructor
  · rintro ⟨t, ht, hle, hq⟩
    rcases Nat.lt_or_eq_of_le hle with hlt | heq
    · exact .inl ⟨t, ht, hlt, hq⟩
    · exact .inr ⟨t, ht, heq, hq⟩
  · rintro (⟨t, ht, hlt, hq⟩ | ⟨t, ht, heq, hq⟩)
    · exact ⟨t, ht, Nat.le_of_lt hlt, hq⟩
    · exact ⟨t, ht, Nat.le_of_eq heq, hq⟩

/-! ## When a corequisite is reported -/

/-- A requirement of courses to be taken along names at least one. -/
theorem ne_nil_of_corequisite (hr : r ∈ c.requirements) (hd : r.demand = .corequisite codes) :
    codes ≠ [] :=
  Requirements.codes_ne_nil_of_mem_items (Course.mem_requirements.1 hr).2 hd nofun

/-- Courses to be taken along are looked for in earlier terms. -/
theorem isSatisfied_corequisite_iff (hr : r ∈ c.requirements)
    (hd : r.demand = .corequisite codes) :
    r.isSatisfied (p.codesBefore index) (some (Level.ofIndex index)) = true ↔
      ∃ code ∈ codes, p.PlacedBefore index code := by
  have hne : codes ≠ [] := ne_nil_of_corequisite hr hd
  rw [Requirement.isSatisfied, hd]
  simp [Demand.isSatisfied, mem_codesBefore, hne]

/-- A finding about a corequisite comes from a demand for courses to be taken along. -/
theorem corequisite_of_unmetFinding? {f : Finding} (h : unmetFinding? index c r = some f)
    (hkind : f.kind = .corequisite) :
    ∃ codes, r.demand = .corequisite codes ∧ f = corequisiteFinding c r := by
  unfold unmetFinding? at h
  split at h
  · cases h
    cases hkind
  · cases h
    cases hkind
  · next codes hd =>
    cases h
    exact ⟨codes, hd, rfl⟩
  · cases h

/-- The finding is there when some requirement of the same description is unmet. -/
theorem mem_findings_corequisite :
    corequisiteFinding c r ∈ (p.reviewAddition threshold index c).findings ↔
      ∃ r' ∈ c.requirements, ∃ codes', r'.demand = .corequisite codes' ∧
        r'.isSatisfied (p.codesBefore index) (some (Level.ofIndex index)) = false ∧
          r'.describe = r.describe := by
  have hrule : corequisiteFinding c r ∈ (p.reviewAddition threshold index c).findings ↔
      corequisiteFinding c r ∈ p.unmet index c := by
    rw [reviewAddition_eq, Report.mem_findings_ofFindings, mem_check]
    refine ⟨?_, fun h => .inr (.inl h)⟩
    rintro (h | h | h | ⟨n, -, h⟩)
    · cases kind_of_mem_duplicates h
    · exact h
    · cases kind_of_mem_conflicts h
    · cases kind_of_mem_overloads h
  rw [hrule, mem_unmet]
  constructor
  · rintro ⟨r', hr', hunmet, hfind⟩
    obtain ⟨codes', hd', hf⟩ := corequisite_of_unmetFinding? hfind rfl
    have hmessage : "Corequisite: " ++ r.describe = "Corequisite: " ++ r'.describe :=
      congrArg Finding.message hf
    rw [String.append_right_inj] at hmessage
    exact ⟨r', hr', codes', hd', hunmet, hmessage.symm⟩
  · rintro ⟨r', hr', codes', hd', hunmet, hdescribe⟩
    refine ⟨r', hr', hunmet, ?_⟩
    rw [unmetFinding?, hd', corequisiteFinding, hdescribe]

/-- **A corequisite is reported exactly when none of its courses is in an earlier term.** -/
theorem mem_corequisites_iff (hr : r ∈ c.requirements) (hd : r.demand = .corequisite codes) :
    corequisiteFinding c r ∈ (p.reviewAddition threshold index c).findings ↔
      ∀ code ∈ codes, ¬p.PlacedBefore index code := by
  have hunmet : r.isSatisfied (p.codesBefore index) (some (Level.ofIndex index)) = false ↔
      ∀ code ∈ codes, ¬p.PlacedBefore index code := by
    rw [← Bool.not_eq_true, isSatisfied_corequisite_iff hr hd]
    push Not
    rfl
  rw [mem_findings_corequisite, ← hunmet]
  constructor
  · rintro ⟨r', hr', codes', hd', hunmet', hdescribe⟩
    obtain rfl := Requirement.corequisites_eq_of_describe_eq hd' hd
      (ne_nil_of_corequisite hr' hd') (ne_nil_of_corequisite hr hd) hdescribe
    rw [Requirement.isSatisfied, hd'] at hunmet'
    rw [Requirement.isSatisfied, hd, hunmet']
  · intro h
    exact ⟨r, hr, codes, hd, h, rfl⟩

/-! ## Corequisites in the same term -/

/-- **A corequisite in the same term does not count.**  A corequisite is reported exactly when none
of its courses is in an earlier term.  So the report is right, in that none of them is in the same
term or an earlier one, unless the only courses that are taken along are in the same term. -/
theorem corequisite_found_iff (p : Plan) (threshold index : Nat) (c : Course)
    (hflag : c.hasRequirements = true) (hr : r ∈ (Requirements.parse c.requisites).items)
    (hd : r.demand = .corequisite codes) :
    (corequisiteFinding c r ∈ (p.reviewAddition threshold index c).findings ↔
        ∀ code ∈ codes, ¬p.PlacedBefore index code) ∧
      ((corequisiteFinding c r ∈ (p.reviewAddition threshold index c).findings ↔
          ∀ code ∈ codes, ¬p.PlacedBy index code) ↔
        ((∃ code ∈ codes, p.PlacedIn index code) → ∃ code ∈ codes, p.PlacedBefore index code)) := by
  have hfound : corequisiteFinding c r ∈ (p.reviewAddition threshold index c).findings ↔
      ∀ code ∈ codes, ¬p.PlacedBefore index code :=
    mem_corequisites_iff (Course.mem_requirements.2 ⟨hflag, hr⟩) hd
  refine ⟨hfound, ?_⟩
  rw [hfound]
  simp only [placedBy_iff]
  constructor
  · rintro h ⟨code, hcode, hin⟩
    by_contra hnone
    push Not at hnone
    exact (h.1 hnone code hcode) (.inr hin)
  · intro h
    constructor
    · intro hnone code hcode hby
      rcases hby with hbefore | hin
      · exact hnone code hcode hbefore
      · obtain ⟨code', hcode', hbefore⟩ := h ⟨code, hcode, hin⟩
        exact hnone code' hcode' hbefore
    · intro hnone code hcode hbefore
      exact hnone code hcode (.inl hbefore)

/-- `ECE 250`, which has to be taken along with `CS 241`. -/
def accompaniedCourse : Course :=
  excludingCourse.withRequisites "Coreq: CS 241"

/-- What `ECE 250` asks for. -/
def accompaniment : Requirement :=
  ⟨.corequisite [excludedCourse.code], "Coreq: CS 241", 0⟩

/-- The plan with `CS 241` in 1A and nothing else. -/
def accompanyingPlan : Plan :=
  (Plan.new "sample").placing 0 excludedCourse

/-- `ECE 250` in 1B, with its corequisite `CS 241` in 1A. -/
theorem corequisite_found_iff_accompanied :
    (accompaniedCourse.hasRequirements = true ∧
      accompaniment ∈ (Requirements.parse accompaniedCourse.requisites).items ∧
      accompaniment.demand = .corequisite [excludedCourse.code]) ∧
    (corequisiteFinding accompaniedCourse accompaniment ∈
        (accompanyingPlan.reviewAddition 6 1 accompaniedCourse).findings ↔
      ∀ code ∈ [excludedCourse.code], ¬accompanyingPlan.PlacedBefore 1 code) ∧
    (corequisiteFinding accompaniedCourse accompaniment ∈
        (accompanyingPlan.reviewAddition 6 1 accompaniedCourse).findings ↔
      ∀ code ∈ [excludedCourse.code], ¬accompanyingPlan.PlacedBy 1 code) := by
  have hflag : accompaniedCourse.hasRequirements = true := by decide +kernel
  have hmem : accompaniment ∈ (Requirements.parse accompaniedCourse.requisites).items := by
    decide +kernel
  have hearlier : ∃ code ∈ [excludedCourse.code], accompanyingPlan.PlacedBefore 1 code := by
    decide +kernel
  obtain ⟨hfound, hright⟩ :=
    corequisite_found_iff accompanyingPlan 6 1 accompaniedCourse hflag hmem rfl
  exact ⟨⟨hflag, hmem, rfl⟩, hfound, hright.2 fun _ => hearlier⟩

/-- **A corequisite in the same term is reported**: `ECE 250` is about to be added to 1A, where
`CS 241` is placed already. -/
theorem not_forall_corequisite_found :
    ¬∀ (p : Plan) (threshold index : Nat) (c : Course) (r : Requirement) (codes : List CourseCode),
      c.hasRequirements = true → r ∈ (Requirements.parse c.requisites).items →
      r.demand = .corequisite codes →
      (corequisiteFinding c r ∈ (p.reviewAddition threshold index c).findings ↔
        ∀ code ∈ codes, ¬p.PlacedBy index code) := by
  intro h
  have hright := h accompanyingPlan 6 0 accompaniedCourse accompaniment [excludedCourse.code]
    (by decide +kernel) (by decide +kernel) rfl
  have hfound : corequisiteFinding accompaniedCourse accompaniment ∈
      (accompanyingPlan.reviewAddition 6 0 accompaniedCourse).findings := by decide +kernel
  exact absurd (hright.1 hfound) (by decide +kernel)

end Plan

end CoursePlan
