import CoursePlan.Review

/-!
# What a review finds

A review is assembled in stages: rules look at one course each, a sweep goes over all placed
courses, the findings are split by severity, and repeats are taken out.  This file says for each
stage which findings are there afterwards:

* `Plan.mem_check` and the lemmas on the single rules list the findings about one course;
* `Plan.mem_sweep` traces a finding of the sweep to a placement and its rank in the display;
* `Plan.mem_keys_review` and `Plan.isValid_review` say that neither the split nor the taking out of
  repeats loses a key or changes the verdict.

Later files argue about these descriptions and do not open the rules again.
-/

namespace CoursePlan

/-! ## Findings and reports -/

@[simp] theorem Finding.key_new (kind : FindingKind) (code : CourseCode)
    (message details : String) :
    (Finding.new kind code message details).key = (code, kind, message) := rfl

@[simp] theorem Finding.isError_new (kind : FindingKind) (code : CourseCode)
    (message details : String) :
    (Finding.new kind code message details).isError = decide (kind.severity = .error) := rfl

namespace Report

/-- The keys of all findings of a report, errors first. -/
def keys (r : Report) : List (CourseCode × FindingKind × String) :=
  r.findings.map Finding.key

/-- A report has the findings that it is made of. -/
theorem mem_findings_ofFindings {fs : List Finding} {f : Finding} :
    f ∈ (ofFindings fs).findings ↔ f ∈ fs := by
  simp only [findings, ofFindings, List.mem_append, List.mem_filter]
  cases f.isError <;> simp

theorem mem_keys_ofFindings {fs : List Finding} {k : CourseCode × FindingKind × String} :
    k ∈ (ofFindings fs).keys ↔ ∃ f ∈ fs, f.key = k := by
  simp only [keys, List.mem_map, mem_findings_ofFindings]

/-- Taking out repeats loses no key. -/
theorem mem_keys_dedup {r : Report} {k : CourseCode × FindingKind × String} :
    k ∈ r.dedup.keys ↔ k ∈ r.keys := by
  simp only [keys, findings, dedup, Finding.dedup, List.map_append, List.mem_append,
    mem_map_firstBy]

/-- A report on findings is valid when none of them is an error. -/
theorem isValid_ofFindings {fs : List Finding} :
    (ofFindings fs).isValid = true ↔ ∀ f ∈ fs, f.isError = false := by
  simp [isValid, ofFindings, List.filter_eq_nil_iff]

/-- Taking out repeats does not change the verdict: the first error of a list stays. -/
theorem isValid_dedup (r : Report) : r.dedup.isValid = r.isValid := by
  unfold isValid dedup Finding.dedup
  cases r.errors with
  | nil => rfl
  | cons f fs => rfl

end Report

/-! ## The rules, one by one -/

namespace Plan

variable {p : Plan} {threshold index : Nat} {c : Course} {f : Finding}

/-- All that is looked at in the other term is its label. -/
theorem duplicates_eq : p.duplicates index c =
    ((p.otherTerm? index c).map Term.label).toList.map fun label =>
      .new .duplicate c.code ("Course already exists in " ++ label)
        "You may want to remove the duplicate course from one of the terms." := by
  unfold duplicates
  cases p.otherTerm? index c <;> rfl

/-- A course is a duplicate if another term has a course with its id. -/
theorem mem_duplicates :
    f ∈ p.duplicates index c ↔ ∃ t, p.otherTerm? index c = some t ∧
      f = .new .duplicate c.code ("Course already exists in " ++ t.label)
        "You may want to remove the duplicate course from one of the terms." := by
  unfold duplicates
  cases p.otherTerm? index c with
  | none => simp
  | some t => simp

/-- What is unmet are requirements that are not satisfied by the terms before. -/
theorem mem_unmet :
    f ∈ p.unmet index c ↔ ∃ r ∈ c.requirements,
      r.isSatisfied (p.codesBefore index) (some (Level.ofIndex index)) = false ∧
        unmetFinding? index c r = some f := by
  simp only [unmet, List.mem_filterMap, List.mem_filter, Bool.not_eq_true', and_assoc]

/-- Nothing is said about courses to stay away from where requirements are unmet. -/
theorem demand_ne_of_unmetFinding? {r : Requirement} (h : unmetFinding? index c r = some f) :
    ∀ codes, r.demand ≠ .antirequisite codes := by
  intro codes hd
  rw [unmetFinding?, hd] at h
  cases h

/-- A requirement excludes the codes of an antirequisite, and no others. -/
theorem mem_excluded {r : Requirement} {code : CourseCode} :
    code ∈ excluded r ↔ ∃ codes, r.demand = .antirequisite codes ∧ code ∈ codes := by
  unfold excluded
  cases r.demand <;> simp

/-- A course conflicts with the other codes that it excludes and that are placed anywhere. -/
theorem mem_conflicts :
    f ∈ p.conflicts c ↔ ∃ r ∈ c.requirements, ∃ other ∈ excluded r,
      other ≠ c.code ∧ other ∈ p.allCodes ∧ f = conflictFinding c other := by
  simp only [conflicts, List.mem_map, List.mem_filter, List.mem_flatMap, Bool.and_eq_true,
    decide_eq_true_eq, decide_not, Bool.not_eq_true', decide_eq_false_iff_not]
  constructor
  · rintro ⟨other, ⟨⟨r, hr, hother⟩, hne, hplaced⟩, rfl⟩
    exact ⟨r, hr, other, hother, hne, hplaced, rfl⟩
  · rintro ⟨r, hr, other, hother, hne, hplaced, rfl⟩
    exact ⟨other, ⟨⟨r, hr, hother⟩, hne, hplaced⟩, rfl⟩

/-- A course is an overload if the count with it is past the threshold. -/
theorem mem_overloads {count : Nat} :
    f ∈ overloads threshold count c ↔ threshold < count ∧
      f = .new .overload c.code ("Term overload: " ++ Numeral.text count ++ " courses")
        ("This term has more than " ++ Numeral.text threshold ++
          " courses. Consider redistributing courses to maintain balance.") := by
  unfold overloads
  split
  · next h => simp [h]
  · next h => simp [h]

/-! Every rule has its own kinds of findings. -/

theorem kind_of_mem_duplicates (h : f ∈ p.duplicates index c) : f.kind = .duplicate := by
  obtain ⟨t, -, rfl⟩ := mem_duplicates.1 h
  rfl

theorem kind_of_mem_unmet (h : f ∈ p.unmet index c) :
    f.kind = .prerequisite ∨ f.kind = .corequisite ∨ f.kind = .level := by
  obtain ⟨r, -, -, hfind⟩ := mem_unmet.1 h
  unfold unmetFinding? at hfind
  split at hfind <;> cases hfind <;> simp [Finding.new]

theorem kind_of_mem_conflicts (h : f ∈ p.conflicts c) : f.kind = .antirequisite := by
  obtain ⟨r, -, other, -, -, -, rfl⟩ := mem_conflicts.1 h
  rfl

theorem kind_of_mem_overloads {count : Nat} (h : f ∈ overloads threshold count c) :
    f.kind = .overload := by
  obtain ⟨-, rfl⟩ := mem_overloads.1 h
  rfl

/-- The findings about one course are those of the four rules. -/
theorem mem_check {before : Option Nat} :
    f ∈ p.check threshold index c before ↔
      f ∈ p.duplicates index c ∨ f ∈ p.unmet index c ∨ f ∈ p.conflicts c ∨
        ∃ n, before = some n ∧ f ∈ overloads threshold (n + 1) c := by
  unfold check
  cases before with
  | none => simp
  | some n => simp

/-- **Severity follows kind** in all that the rules find. -/
theorem severity_of_mem_check {before : Option Nat} (h : f ∈ p.check threshold index c before) :
    f.severity = f.kind.severity := by
  rcases mem_check.1 h with h | h | h | ⟨n, -, h⟩
  · obtain ⟨t, -, rfl⟩ := mem_duplicates.1 h
    rfl
  · obtain ⟨r, -, -, hfind⟩ := mem_unmet.1 h
    unfold unmetFinding? at hfind
    split at hfind <;> cases hfind <;> rfl
  · obtain ⟨r, -, other, -, -, -, rfl⟩ := mem_conflicts.1 h
    rfl
  · obtain ⟨-, rfl⟩ := mem_overloads.1 h
    rfl

/-! ## The sweep -/

/-- All findings about the placed courses, term after term in display order, repeats included. -/
def sweep (p : Plan) (threshold : Nat) : List Finding :=
  p.terms.flatMap (p.checkTerm threshold)

theorem mem_displayed {t : Term} {q : Placement} : q ∈ displayed t ↔ q ∈ t.placements := by
  rw [displayed, List.mem_mergeSort]

/-- The sweep checks every placement of every term at its rank in the display. -/
theorem mem_sweep :
    f ∈ p.sweep threshold ↔ ∃ t ∈ p.terms, ∃ q rank, (q, rank) ∈ (displayed t).zipIdx ∧
      f ∈ p.check threshold t.index q.course (some rank) := by
  simp only [sweep, checkTerm, List.mem_flatMap, Prod.exists]

/-- What the sweep finds is as severe as its kind is. -/
theorem severity_of_mem_sweep (h : f ∈ p.sweep threshold) : f.severity = f.kind.severity := by
  obtain ⟨_, -, _, _, -, hcheck⟩ := mem_sweep.1 h
  exact severity_of_mem_check hcheck

theorem review_eq : p.review threshold = (Report.ofFindings (p.sweep threshold)).dedup := rfl

/-- The keys of a review are those of the sweep. -/
theorem mem_keys_review {k : CourseCode × FindingKind × String} :
    k ∈ (p.review threshold).keys ↔ ∃ f ∈ p.sweep threshold, f.key = k := by
  rw [review_eq, Report.mem_keys_dedup, Report.mem_keys_ofFindings]

/-- A plan is valid when the sweep finds no error. -/
theorem isValid_review :
    (p.review threshold).isValid = true ↔ ∀ f ∈ p.sweep threshold, f.isError = false := by
  rw [review_eq, Report.isValid_dedup, Report.isValid_ofFindings]

theorem reviewAddition_eq : p.reviewAddition threshold index c =
    .ofFindings (p.check threshold index c ((p.term? index).map (·.placements.length))) := rfl

/-- The review of an addition has the keys of what is found with the whole term counted. -/
theorem mem_keys_reviewAddition {k : CourseCode × FindingKind × String} :
    k ∈ (p.reviewAddition threshold index c).keys ↔
      ∃ f ∈ p.check threshold index c ((p.term? index).map (·.placements.length)), f.key = k := by
  rw [reviewAddition_eq, Report.mem_keys_ofFindings]

/-- A placed course has some rank in the display of its term. -/
theorem exists_rank {t : Term} {q : Placement} (hq : q ∈ t.placements) :
    ∃ rank, (q, rank) ∈ (displayed t).zipIdx := by
  obtain ⟨rank, hrank, hget⟩ := List.getElem_of_mem (mem_displayed.2 hq)
  refine ⟨rank, ?_⟩
  rw [List.mem_zipIdx_iff_getElem?, List.getElem?_eq_getElem hrank, hget]

/-- Only placed courses have a rank. -/
theorem mem_placements_of_mem_zipIdx {t : Term} {q : Placement} {rank : Nat}
    (h : (q, rank) ∈ (displayed t).zipIdx) : q ∈ t.placements := by
  rw [List.mem_zipIdx_iff_getElem?] at h
  exact mem_displayed.1 (List.mem_of_getElem? h)

end Plan

end CoursePlan
