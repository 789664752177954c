import CoursePlan.Proofs.Review.Progress

/-!
# Committing an addition

A course is reviewed as an addition before it is placed, and the whole plan is reviewed afterwards.
The two reviews are compared here.

* `Plan.isValid_review_place_iff`: where the plan was valid and the addition was accepted, the new
  plan, its course being placed in a term with room, is valid exactly when no course that was placed
  before excludes the new one.  The review of an addition does not ask the placed courses, so that
  an accepted addition can break a valid plan (`Plan.not_forall_isValid_review_place`).
* `Plan.keys_review_place`: the new plan has all the findings of the addition, and nothing new
  besides them but conflicts with the new course and notes that it is a duplicate.
-/

namespace CoursePlan

namespace Plan

variable {p : Plan} {threshold index i : Nat} {c d : Course} {f : Finding}

/-! ## Requirements after the course is placed -/

/-- No placed course with another code excludes the code. -/
def Tolerates (p : Plan) (code : CourseCode) : Prop :=
  ∀ t ∈ p.terms, ∀ q ∈ t.placements, q.course.hasRequirements = true → q.course.code ≠ code →
    ∀ r ∈ (Requirements.parse q.course.requisites).items,
      ∀ codes, r.demand = .antirequisite codes → code ∉ codes

/-- A demand that was honoured still is, unless it excludes the course that was placed.  More
courses are completed than before, but more are there to stay away from. -/
theorem honours_placing_iff (hindex : index < termCount) {own : CourseCode} {demand : Demand}
    (h : p.Honours i own demand) :
    (p.placing index c).Honours i own demand ↔
      (own ≠ c.code → ∀ codes, demand = .antirequisite codes → c.code ∉ codes) := by
  have hmono : ∀ {code}, p.PlacedBefore i code → (p.placing index c).PlacedBefore i code := by
    intro code hcode
    exact (placedBefore_placing hindex).2 (.inl hcode)
  cases demand with
  | courses op codes =>
    refine iff_of_true ?_ (fun _ _ hd => by cases hd)
    cases op with
    | none =>
      intro code hcode
      exact hmono (h code hcode)
    | some op =>
      cases op with
      | all =>
        intro code hcode
        exact hmono (h code hcode)
      | any =>
        obtain ⟨code, hcode, hplaced⟩ := h
        exact ⟨code, hcode, hmono hplaced⟩
  | level l program => exact iff_of_true trivial (fun _ _ hd => by cases hd)
  | corequisite codes => exact iff_of_true trivial (fun _ _ hd => by cases hd)
  | antirequisite codes =>
    constructor
    · rintro hh hown codes' hd hmem
      cases hd
      exact hh c.code hmem (Ne.symm hown) ((placed_placing hindex).2 (.inr rfl))
    · intro hh code hcode hne hplaced
      rcases (placed_placing hindex).1 hplaced with hplaced | rfl
      · exact h code hcode hne hplaced
      · exact hh (Ne.symm hne) codes rfl hcode

/-- Where the plan is legal and the requirements of the course are honoured, the new plan is legal
exactly when the plan tolerates the course. -/
theorem legal_placing_iff (hindex : index < termCount) (hlegal : p.Legal)
    (hc : ∀ r ∈ c.requirements, p.Honours index c.code r.demand) :
    (p.placing index c).Legal ↔ p.Tolerates c.code := by
  constructor
  · intro h t ht q hq hflag hne r hr
    refine (honours_placing_iff hindex (hlegal t ht q hq hflag r hr)).1 ?_ hne
    have hnew := h _ (mem_terms_placing.2 ⟨t, ht, rfl⟩) q (mem_placements_of_placing.2 (.inl hq))
      hflag r hr
    rwa [(index_label_of_placing t index c).1] at hnew
  · intro h u hu q hq hflag r hr
    obtain ⟨t, ht, rfl⟩ := mem_terms_placing.1 hu
    rw [(index_label_of_placing t index c).1]
    rcases mem_placements_of_placing.1 hq with hq | ⟨rfl, rfl⟩
    · rw [honours_placing_iff hindex (hlegal t ht q hq hflag r hr)]
      intro hne
      exact h t ht q hq hflag hne r hr
    -- The new course has its requirements honoured from the start, and does not exclude itself.
    · rw [honours_placing_iff hindex (hc r (Course.mem_requirements.2 ⟨hflag, hr⟩))]
      intro hne
      exact absurd rfl hne

/-- **An accepted addition keeps a plan valid exactly when the placed courses tolerate it.**  The
term has room, as it must have for the position of the new course; whether the plan is valid does
not depend on positions, and the room is asked for nothing else. -/
theorem isValid_review_place_iff (p : Plan) (threshold index : Nat) (c : Course)
    (hindex : index < termCount) (_hroom : ∀ t ∈ p.terms, t.index = index → t.HasRoom)
    (hplan : (p.review threshold).isValid = true)
    (haddition : (p.reviewAddition threshold index c).isValid = true) :
    ∃ p', p.place index c = .ok p' ∧
      ((p'.review threshold).isValid = true ↔ p.Tolerates c.code) := by
  refine ⟨p.placing index c, place_eq_ok p c hindex, ?_⟩
  have hlegal : p.Legal := isValid_review_iff.1 hplan
  rw [isValid_review_iff]
  exact legal_placing_iff hindex hlegal (isValid_reviewAddition_iff.1 haddition)

/-- `ECE 250`, which must not be taken with `CS 241`. -/
def excludingCourse : Course :=
  (Course.new (.drawn 0) ⟨['E', 'C', 'E'], ['2', '5', '0'], rfl, rfl⟩).withRequisites
    "Antireq: CS 241"

/-- `CS 241`, which has no requisites. -/
def excludedCourse : Course :=
  Course.new (.drawn 1) ⟨['C', 'S'], ['2', '4', '1'], rfl, rfl⟩

/-- The plan with `ECE 250` in 1A and nothing else. -/
def excludingPlan : Plan :=
  (Plan.new "sample").placing 0 excludingCourse

/-- `CS 241` is accepted in 1B, where `ECE 250`, which excludes it, stands in 1A. -/
theorem isValid_review_place_excluded :
    (1 < termCount ∧ (∀ t ∈ excludingPlan.terms, t.index = 1 → t.HasRoom) ∧
      (excludingPlan.review 6).isValid = true ∧
      (excludingPlan.reviewAddition 6 1 excludedCourse).isValid = true) ∧
    ∃ p', excludingPlan.place 1 excludedCourse = .ok p' ∧
      ((p'.review 6).isValid = true ↔ excludingPlan.Tolerates excludedCourse.code) :=
  ⟨⟨by decide, by decide +kernel, by decide +kernel, by decide +kernel⟩,
    isValid_review_place_iff excludingPlan 6 1 excludedCourse (by decide) (by decide +kernel)
      (by decide +kernel) (by decide +kernel)⟩

/-- **An accepted addition can break a valid plan**: `CS 241` may be added to the plan with
`ECE 250`, and then `ECE 250` conflicts with it. -/
theorem not_forall_isValid_review_place :
    ¬ ∀ (p : Plan) (threshold index : Nat) (c : Course), (p.review threshold).isValid = true →
      index < termCount → (∀ t ∈ p.terms, t.index = index → t.HasRoom) →
      (p.reviewAddition threshold index c).isValid = true →
      ∀ p', p.place index c = .ok p' → (p'.review threshold).isValid = true := by
  intro h
  have hvalid := h excludingPlan 6 1 excludedCourse (by decide +kernel) (by decide)
    (by decide +kernel) (by decide +kernel) _ (place_eq_ok _ _ (by decide))
  exact absurd hvalid (by decide +kernel)

/-! ## Findings after the course is placed -/

/-- In its own term the new course is no duplicate, and it changes no other term. -/
theorem otherTerm?_placing_self :
    (p.placing index c).otherTerm? index d = p.otherTerm? index d := by
  have hheld : ((fun t : Term => decide (t.index ≠ index) &&
      t.placements.any (fun q => decide (q.course.id = d.id))) ∘
        fun t => if t.index = index then t.add c else t) =
      fun t : Term => decide (t.index ≠ index) &&
        t.placements.any (fun q => decide (q.course.id = d.id)) := by
    funext t
    rw [Function.comp_apply]
    split
    · next h => simp [Term.add, h]
    · rfl
  rw [otherTerm?, terms_placing, List.find?_map, hheld, ← otherTerm?]
  cases h : p.otherTerm? index d with
  | none => rfl
  | some t =>
    have hne : t.index ≠ index := by
      have hfound := List.find?_some h
      rw [Bool.and_eq_true, decide_eq_true_eq] at hfound
      exact hfound.1
    rw [Option.map_some, if_neg hne]

/-- The first other term that holds a course is the one it was, or else the term that was
changed. -/
theorem otherTerm?_placing_eq_some {u : Term}
    (h : (p.placing index c).otherTerm? i d = some u) :
    (∃ t, p.otherTerm? i d = some t ∧ t.label = u.label) ∨
      (d.id = c.id ∧ i ≠ index ∧ ∃ t ∈ p.terms, t.index = index ∧ t.label = u.label) := by
  rw [otherTerm?, terms_placing, List.find?_map, Option.map_eq_some_iff] at h
  obtain ⟨t, hfound, rfl⟩ := h
  obtain ⟨hheld, before, after, hterms, hbefore⟩ := List.find?_eq_some_iff_append.1 hfound
  simp only [Function.comp_apply, Bool.and_eq_true, decide_eq_true_eq, List.any_eq_true,
    (index_label_of_placing _ index c).1, mem_placements_of_placing] at hheld
  obtain ⟨hne, q, hq, hid⟩ := hheld
  rw [(index_label_of_placing t index c).2]
  -- The term that is found held the course before, or it holds it since the change only.
  by_cases hold : ∃ q ∈ t.placements, q.course.id = d.id
  · refine .inl ⟨t, ?_, rfl⟩
    rw [otherTerm?, List.find?_eq_some_iff_append]
    refine ⟨by simpa [hne] using hold, before, after, hterms, ?_⟩
    intro v hv
    have hnot := hbefore v hv
    simp only [Function.comp_apply, (index_label_of_placing _ index c).1, Bool.not_eq_true',
      Bool.and_eq_false_iff, decide_eq_false_iff_not, List.any_eq_false,
      mem_placements_of_placing, decide_eq_true_eq] at hnot ⊢
    exact hnot.imp_right fun hall q hq => hall q (.inl hq)
  · rcases hq with hq | ⟨hindex, rfl⟩
    · exact absurd ⟨q, hq, hid⟩ hold
    · refine .inr ⟨hid.symm, hindex ▸ hne.symm, t, ?_, hindex, rfl⟩
      rw [hterms]
      exact List.mem_append_right before List.mem_cons_self

/-- A course that is a duplicate was one before, or it has the id of the new one and is in another
term. -/
theorem mem_duplicates_placing (h : f ∈ (p.placing index c).duplicates i d) :
    f ∈ p.duplicates i d ∨ (d.id = c.id ∧ i ≠ index ∧ ∃ t ∈ p.terms, t.index = index ∧
      f.key = (d.code, .duplicate, "Course already exists in " ++ t.label)) := by
  obtain ⟨u, hu, rfl⟩ := mem_duplicates.1 h
  rcases otherTerm?_placing_eq_some hu with ⟨t, ht, hlabel⟩ | ⟨hid, hne, t, ht, hindex, hlabel⟩
  · exact .inl (mem_duplicates.2 ⟨t, ht, by rw [hlabel]⟩)
  · exact .inr ⟨hid, hne, t, ht, hindex, by rw [hlabel, Finding.key_new]⟩

/-- With more courses completed, no requirement becomes unmet. -/
theorem mem_unmet_placing (h : f ∈ (p.placing index c).unmet i d) : f ∈ p.unmet i d :=
  (unmet_sublist (within_placing p index c)).subset h

/-- The courses that exclude the new one conflict with it, and there are no other new conflicts. -/
theorem mem_conflicts_placing (hindex : index < termCount) :
    f ∈ (p.placing index c).conflicts d ↔ f ∈ p.conflicts d ∨
      (d.code ≠ c.code ∧ f = conflictFinding d c.code ∧
        ∃ r ∈ d.requirements, c.code ∈ excluded r) := by
  simp only [mem_conflicts, mem_allCodes, placed_placing hindex]
  constructor
  · rintro ⟨r, hr, other, hother, hne, hplaced | rfl, rfl⟩
    · exact .inl ⟨r, hr, other, hother, hne, hplaced, rfl⟩
    · exact .inr ⟨hne.symm, rfl, r, hr, hother⟩
  · rintro (⟨r, hr, other, hother, hne, hplaced, rfl⟩ | ⟨hne, rfl, r, hr, hother⟩)
    · exact ⟨r, hr, other, hother, hne, .inl hplaced, rfl⟩
    · exact ⟨r, hr, c.code, hother, hne.symm, .inr rfl, rfl⟩

/-! ## The two reviews -/

/-- The rules find the same about the new course before and after it is placed. -/
theorem mem_check_placing_self (hindex : index < termCount) {before : Option Nat} :
    f ∈ (p.placing index c).check threshold index c before ↔
      f ∈ p.check threshold index c before := by
  have hduplicates : (p.placing index c).duplicates index c = p.duplicates index c := by
    rw [duplicates, otherTerm?_placing_self, ← duplicates]
  have hunmet : (p.placing index c).unmet index c = p.unmet index c := by
    rw [unmet, codesBefore_placing_of_le (Nat.le_refl index), ← unmet]
  have hconflicts : f ∈ (p.placing index c).conflicts c ↔ f ∈ p.conflicts c := by
    rw [mem_conflicts_placing hindex]
    simp
  rw [mem_check, mem_check, hduplicates, hunmet, hconflicts]

/-- The keys of the findings that a placed course gets because of the new one: that the two
conflict, or that the course is placed in the term of the new one as well. -/
def Provokes (p : Plan) (index : Nat) (c : Course)
    (k : CourseCode × FindingKind × String) : Prop :=
  ∃ t ∈ p.terms, ∃ q ∈ t.placements,
    (q.course.code ≠ c.code ∧
      k = (q.course.code, .antirequisite, "Cannot take with " ++ c.code.text)) ∨
    (q.course.id = c.id ∧ t.index ≠ index ∧ ∃ u ∈ p.terms, u.index = index ∧
      k = (q.course.code, .duplicate, "Course already exists in " ++ u.label))

/-- What the rules find about a course that was placed before. -/
theorem mem_check_placing (hindex : index < termCount) {t : Term} (ht : t ∈ p.terms)
    {q : Placement} (hq : q ∈ t.placements) {before : Option Nat}
    (h : f ∈ (p.placing index c).check threshold t.index q.course before) :
    f ∈ p.check threshold t.index q.course before ∨ p.Provokes index c f.key := by
  rcases mem_check.1 h with h | h | h | h
  · rcases mem_duplicates_placing h with h | ⟨hid, hne, u, hu, hui, hkey⟩
    · exact .inl (mem_check.2 (.inl h))
    · exact .inr ⟨t, ht, q, hq, .inr ⟨hid, hne, u, hu, hui, hkey⟩⟩
  · exact .inl (mem_check.2 (.inr (.inl (mem_unmet_placing h))))
  · rcases (mem_conflicts_placing hindex).1 h with h | ⟨hne, rfl, -⟩
    · exact .inl (mem_check.2 (.inr (.inr (.inl h))))
    · exact .inr ⟨t, ht, q, hq, .inl ⟨hne, rfl⟩⟩
  · exact .inl (mem_check.2 (.inr (.inr (.inr h))))

/-- **Commit law.**  Once a course is placed in a term with room, the review of the plan has every
finding of its addition, and every finding of the review was there before, is one of the addition,
or is provoked by the new course. -/
theorem keys_review_place (p : Plan) (threshold index : Nat) (c : Course)
    (hindex : index < termCount) (hroom : ∀ t ∈ p.terms, t.index = index → t.HasRoom) :
    ∃ p', p.place index c = .ok p' ∧
      (∀ k ∈ (p.reviewAddition threshold index c).keys, k ∈ (p'.review threshold).keys) ∧
      ∀ k ∈ (p'.review threshold).keys,
        k ∈ (p.review threshold).keys ∨ k ∈ (p.reviewAddition threshold index c).keys ∨
          p.Provokes index c k := by
  obtain ⟨t, ht, rfl⟩ := p.exists_term hindex
  refine ⟨p.placing t.index c, place_eq_ok p c hindex, ?_, ?_⟩
  · intro k hk
    obtain ⟨f, hf, rfl⟩ := mem_keys_reviewAddition.1 hk
    rw [term?_index ht, Option.map_some] at hf
    refine mem_keys_review.2 ⟨f, mem_sweep.2 ⟨_, mem_terms_placing.2 ⟨t, ht, rfl⟩,
      ⟨c, t.nextPosition⟩, t.placements.length, ?_, ?_⟩, rfl⟩
    · exact (mem_zipIdx_displayed_placing (hroom t ht)).2 (.inr ⟨rfl, rfl, rfl⟩)
    · rw [(index_label_of_placing t t.index c).1]
      exact (mem_check_placing_self hindex).2 hf
  · intro k hk
    obtain ⟨f, hf, rfl⟩ := mem_keys_review.1 hk
    obtain ⟨v, hv, q, rank, hrank, hcheck⟩ := mem_sweep.1 hf
    obtain ⟨u, hu, rfl⟩ := mem_terms_placing.1 hv
    rw [(index_label_of_placing u t.index c).1] at hcheck
    -- A placement of the new plan was there before with the same rank, or it is the new course.
    rcases (mem_zipIdx_displayed_placing (hroom u hu)).1 hrank with hrank | ⟨hui, rfl, rfl⟩
    · rcases mem_check_placing hindex hu (mem_placements_of_mem_zipIdx hrank) hcheck with h | h
      · exact .inl (mem_keys_review.2 ⟨f, mem_sweep.2 ⟨u, hu, q, rank, hrank, h⟩, rfl⟩)
      · exact .inr (.inr h)
    · refine .inr (.inl (mem_keys_reviewAddition.2 ⟨f, ?_, rfl⟩))
      rw [← hui] at hcheck hindex ⊢
      rw [term?_index hu, Option.map_some]
      exact (mem_check_placing_self hindex).1 hcheck

/-- The same addition at a threshold of 0, where the new course is an overload as well. -/
theorem keys_review_place_excluded :
    (1 < termCount ∧ ∀ t ∈ excludingPlan.terms, t.index = 1 → t.HasRoom) ∧
    ∃ p', excludingPlan.place 1 excludedCourse = .ok p' ∧
      (∀ k ∈ (excludingPlan.reviewAddition 0 1 excludedCourse).keys, k ∈ (p'.review 0).keys) ∧
      ∀ k ∈ (p'.review 0).keys, k ∈ (excludingPlan.review 0).keys ∨
        k ∈ (excludingPlan.reviewAddition 0 1 excludedCourse).keys ∨
          excludingPlan.Provokes 1 excludedCourse k :=
  ⟨⟨by decide, by decide +kernel⟩,
    keys_review_place excludingPlan 0 1 excludedCourse (by decide) (by decide +kernel)⟩

end Plan

end CoursePlan
