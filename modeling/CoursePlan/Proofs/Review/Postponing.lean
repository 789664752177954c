import CoursePlan.Proofs.Review.Progress

/-!
# Postponing a course

The later a course is taken, the more courses are completed before it, and the higher is the level
that was reached.  So fewer requirements are unmet in a later term, while the courses that the plan
holds anywhere, and the conflicts with them, stay the same (`Plan.postponed_of_le`).  Terms behind
the end of the plan are no exception, although those from some term on share the last level.

The details of a finding about a level name the term, so that the findings in two terms are compared
by their keys.
-/

namespace CoursePlan

/-- A later term has no lower level. -/
theorem Level.toNat_ofIndex_mono {i j : Nat} (h : i ≤ j) :
    (ofIndex i).toNat ≤ (ofIndex j).toNat := by
  rw [toNat_ofIndex, toNat_ofIndex]
  omega

/-- The keys of the findings of one kind, errors first. -/
def Report.keysOf (r : Report) (kind : FindingKind) : List (CourseCode × FindingKind × String) :=
  (r.ofKind kind).map Finding.key

theorem Finding.map_key_filter (fs : List Finding) (kind : FindingKind) :
    (fs.filter (fun f => decide (f.kind = kind))).map key =
      (fs.map key).filter (fun k => decide (k.2.1 = kind)) := by
  rw [List.filter_map]
  rfl

namespace Plan

variable {p : Plan} {threshold index later : Nat} {c : Course}

/-! ## What is met in a later term -/

/-- What is placed before a term is placed before all later ones. -/
theorem PlacedBefore.mono (h : index ≤ later) {code : CourseCode}
    (hplaced : p.PlacedBefore index code) : p.PlacedBefore later code := by
  obtain ⟨t, ht, hlt, hq⟩ := hplaced
  exact ⟨t, ht, Nat.lt_of_lt_of_le hlt h, hq⟩

/-- What the plan honours in a term, it honours in every later one. -/
theorem Honours.mono (h : index ≤ later) {own : CourseCode} {d : Demand}
    (hd : p.Honours index own d) : p.Honours later own d := by
  cases d with
  | courses op codes =>
    cases op with
    | none =>
      intro code hcode
      exact (hd code hcode).mono h
    | some op =>
      cases op with
      | all =>
        intro code hcode
        exact (hd code hcode).mono h
      | any =>
        obtain ⟨code, hcode, hplaced⟩ := hd
        exact ⟨code, hcode, hplaced.mono h⟩
  | level l program => trivial
  | corequisite codes => trivial
  | antirequisite codes => exact hd

/-- A requirement that excludes nothing stays satisfied in later terms. -/
theorem isSatisfied_mono (h : index ≤ later) {r : Requirement}
    (hr : ∀ codes, r.demand ≠ .antirequisite codes)
    (hsat : r.isSatisfied (p.codesBefore index) (some (Level.ofIndex index)) = true) :
    r.isSatisfied (p.codesBefore later) (some (Level.ofIndex later)) = true := by
  refine Demand.isSatisfied_mono ?_ ?_ hr hsat
  · intro code hcode
    exact mem_codesBefore.2 ((mem_codesBefore.1 hcode).mono h)
  · rintro l ⟨⟩
    exact ⟨_, rfl, Level.toNat_ofIndex_mono h⟩

/-! ## What is found in a later term -/

/-- The key of a finding about a requirement does not tell the term. -/
theorem key_unmetFinding? (i j : Nat) (c : Course) (r : Requirement) :
    (unmetFinding? i c r).map Finding.key = (unmetFinding? j c r).map Finding.key := by
  rw [unmetFinding?, unmetFinding?]
  cases r.demand <;> rfl

/-- In a later term, no requirement is unmet that was met before. -/
theorem keys_unmet_sublist (h : index ≤ later) :
    ((p.unmet later c).map Finding.key).Sublist ((p.unmet index c).map Finding.key) := by
  simp only [unmet, List.map_filterMap, key_unmetFinding? later index]
  apply filterMap_filter_sublist
  intro r _ k hk hunmet
  obtain ⟨f, hfind, -⟩ := Option.map_eq_some_iff.1 hk
  rw [Bool.not_eq_true', Bool.eq_false_iff] at hunmet ⊢
  intro hsat
  exact hunmet (isSatisfied_mono h (demand_ne_of_unmetFinding? hfind) hsat)

/-- In a later term there are no new findings about unmet requirements. -/
theorem keysOf_reviewAddition_sublist (h : index ≤ later) {kind : FindingKind}
    (hkind : kind = .prerequisite ∨ kind = .corequisite ∨ kind = .level) :
    ((p.reviewAddition threshold later c).keysOf kind).Sublist
      ((p.reviewAddition threshold index c).keysOf kind) := by
  have hunmet := (keys_unmet_sublist (p := p) (c := c) h).filter fun k => decide (k.2.1 = kind)
  simp only [Report.keysOf, ofKind_reviewAddition, filter_check]
  rcases hkind with rfl | rfl | rfl <;> simpa only [Finding.map_key_filter] using hunmet

end Plan

/-- How a report on a course changes when the course is postponed: demands and levels are met or
stay open, conflicts stay as they are, and what was valid stays valid. -/
structure Report.Postponed (early late : Report) : Prop where
  prerequisite : (late.keysOf .prerequisite).Sublist (early.keysOf .prerequisite)
  corequisite : (late.keysOf .corequisite).Sublist (early.keysOf .corequisite)
  level : (late.keysOf .level).Sublist (early.keysOf .level)
  antirequisite : late.ofKind .antirequisite = early.ofKind .antirequisite
  isValid : early.isValid = true → late.isValid = true

namespace Plan

/-- **Postponing a course never hurts.**  Added to a later term, which may lie behind the end of the
plan, a course misses no prerequisites, corequisites and levels that it did not miss before, and has
the same conflicts; if it was valid in the earlier term, it is valid in the later one. -/
theorem postponed_of_le (p : Plan) (threshold : Nat) (c : Course) {index later : Nat}
    (h : index ≤ later) : Report.Postponed (p.reviewAddition threshold index c)
      (p.reviewAddition threshold later c) where
  prerequisite := keysOf_reviewAddition_sublist h (.inl rfl)
  corequisite := keysOf_reviewAddition_sublist h (.inr (.inl rfl))
  level := keysOf_reviewAddition_sublist h (.inr (.inr rfl))
  antirequisite := by
    simp only [ofKind_reviewAddition, filter_check]
  isValid := by
    intro hvalid
    rw [isValid_reviewAddition_iff] at hvalid ⊢
    intro r hr
    exact (hvalid r hr).mono h

/-- In 1B `MATH 239` is valid although it misses a level, which it does not in a term whose index
exceeds 32 bits. -/
theorem postponed_of_le_demanding :
    (1 ≤ 4294967300 ∧ (demandedPlan.reviewAddition 6 1 demandingCourse).isValid = true ∧
      (demandedPlan.reviewAddition 6 1 demandingCourse).keysOf .level ≠
        (demandedPlan.reviewAddition 6 4294967300 demandingCourse).keysOf .level) ∧
    Report.Postponed (demandedPlan.reviewAddition 6 1 demandingCourse)
      (demandedPlan.reviewAddition 6 4294967300 demandingCourse) :=
  ⟨by decide +kernel, postponed_of_le demandedPlan 6 demandingCourse (by decide)⟩

end Plan

end CoursePlan
