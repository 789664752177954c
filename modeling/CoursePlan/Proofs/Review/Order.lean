import CoursePlan.Proofs.Plan.Holdings
import CoursePlan.Proofs.Review.Details
import CoursePlan.Proofs.Review.Union

/-!
# The order of planning

A student who places the same courses in the same terms, in whatever order, gets the same reviews.
The reason is that the rules look at what the terms hold and at nothing else: plans with the same
holdings have the same findings about a course that is added (`Plan.reviewAddition_congr`), and
apart from overloads, which depend on the order of display, about the courses that are placed.

A review of a whole plan shows one finding for each key, the first that the sweep comes upon.  The
sweep goes from term to term in program order, and within a term findings with the same key are the
same, so that the one which is shown does not depend on the order within the term either
(`Plan.find?_sweep_congr`).
-/

namespace CoursePlan

/-- A search finds the same in lists with the same candidates, if there is only one candidate. -/
theorem find?_congr_of_unique {α : Type} {p : α → Bool} {l l' : List α}
    (hmem : ∀ a, p a = true → (a ∈ l ↔ a ∈ l'))
    (hunique : ∀ a ∈ l, ∀ b ∈ l, p a = true → p b = true → a = b) : l.find? p = l'.find? p := by
  cases h : l.find? p with
  | none =>
    have hnone := List.find?_eq_none.1 h
    symm
    apply List.find?_eq_none.2
    intro a ha hp
    exact hnone a ((hmem a hp).2 ha) hp
  | some a =>
    have ha := List.mem_of_find?_eq_some h
    have hp := List.find?_some h
    cases h' : l'.find? p with
    | none => exact absurd hp (List.find?_eq_none.1 h' a ((hmem a hp).1 ha))
    | some b =>
      have hb := List.mem_of_find?_eq_some h'
      have hpb := List.find?_some h'
      rw [hunique a ha b ((hmem b hpb).2 hb) hp hpb]

namespace Plan

variable {p q : Plan} {threshold index : Nat} {c : Course} {f : Finding} {t u : Term}

/-! ## Plans with the same holdings -/

/-- Plans that hold the same have the same codes in their terms. -/
theorem within_of_holdings_eq (h : p.holdings = q.holdings) : p.Within q := by
  intro t ht code hcode
  obtain ⟨u, hu, hholding⟩ := exists_term_of_holdings_eq h ht
  refine ⟨u, hu, congrArg Holding.index hholding, ?_⟩
  rw [Term.mem_codes] at hcode ⊢
  rwa [hholding]

/-- Whether a term other than the one with the given index holds the course can be seen from what
it holds. -/
theorem any_placements_congr (h : t.holding = u.holding) :
    (decide (t.index ≠ index) && t.placements.any (fun q => decide (q.course.id = c.id))) =
      (decide (u.index ≠ index) && u.placements.any (fun q => decide (q.course.id = c.id))) := by
  have hany : ∀ t : Term, t.placements.any (fun q => decide (q.course.id = c.id)) = true ↔
      ∃ d ∈ t.holding.courses, d.id = c.id := by
    intro t
    simp [Term.holding]
  have hindex : t.index = u.index := congrArg Holding.index h
  rw [hindex, Bool.eq_iff_iff.2 ((hany t).trans (h ▸ (hany u).symm))]

theorem duplicates_congr (h : p.holdings = q.holdings) :
    p.duplicates index c = q.duplicates index c := by
  have hlabel : (p.otherTerm? index c).map Term.label = (q.otherTerm? index c).map Term.label := by
    rw [otherTerm?, otherTerm?, List.find?_eq_findSome?_guard, List.find?_eq_findSome?_guard,
      List.map_findSome?, List.map_findSome?]
    apply findSome?_terms_congr h
    intro t u htu
    have hlabel : t.label = u.label := congrArg Holding.label htu
    simp only [Function.comp_apply, Option.guard, any_placements_congr htu]
    split
    · exact congrArg some hlabel
    · rfl
  rw [duplicates_eq, duplicates_eq, hlabel]

/-- The rules find the same about a course in plans with the same holdings. -/
theorem check_congr (h : p.holdings = q.holdings) (before : Option Nat) :
    p.check threshold index c before = q.check threshold index c before := by
  have hunmet : p.unmet index c = q.unmet index c :=
    (unmet_sublist (within_of_holdings_eq h.symm)).antisymm
      (unmet_sublist (within_of_holdings_eq h))
  have hconflicts : p.conflicts c = q.conflicts c :=
    (conflicts_sublist (within_of_holdings_eq h)).antisymm
      (conflicts_sublist (within_of_holdings_eq h.symm))
  unfold check
  rw [duplicates_congr h, hunmet, hconflicts]

/-- **The review of an addition depends on what the plan holds only.** -/
theorem reviewAddition_congr (h : p.holdings = q.holdings) :
    p.reviewAddition threshold index c = q.reviewAddition threshold index c := by
  have hlength : (p.term? index).map (·.placements.length) =
      (q.term? index).map (·.placements.length) := by
    rw [term?, term?, ← List.getElem?_map, ← List.getElem?_map,
      map_terms_congr h fun _ _ => Term.length_placements_eq]
  rw [reviewAddition, reviewAddition, hlength, check_congr h]

/-! ## The sweep over a plan -/

/-- Overloads apart, terms that hold the same have the same findings. -/
theorem mem_checkTerm_congr (h : p.holdings = q.holdings) (hkind : f.kind ≠ .overload)
    (htu : t.holding = u.holding) :
    f ∈ p.checkTerm threshold t ↔ f ∈ q.checkTerm threshold u := by
  have hcourse : ∀ (p : Plan) (t : Term), f ∈ p.checkTerm threshold t ↔
      ∃ c ∈ t.holding.courses, f ∈ p.check threshold t.holding.index c none := by
    intro p t
    simp only [mem_checkTerm_of_kind_ne hkind, Term.mem_courses_holding, Term.index_holding]
    constructor
    · rintro ⟨q, hq, hf⟩
      exact ⟨q.course, ⟨q, hq, rfl⟩, hf⟩
    · rintro ⟨_, ⟨q, hq, rfl⟩, hf⟩
      exact ⟨q, hq, hf⟩
  simp only [hcourse, htu, check_congr h]

/-- Overloads apart, plans that hold the same have the same findings. -/
theorem mem_sweep_congr (h : p.holdings = q.holdings) (hkind : f.kind ≠ .overload) :
    f ∈ p.sweep threshold ↔ f ∈ q.sweep threshold := by
  suffices hsweep : ∀ {p q : Plan}, p.holdings = q.holdings → f ∈ p.sweep threshold →
      f ∈ q.sweep threshold from ⟨hsweep h, hsweep h.symm⟩
  intro p q h hf
  obtain ⟨t, ht, hf⟩ := List.mem_flatMap.1 hf
  obtain ⟨u, hu, hholding⟩ := exists_term_of_holdings_eq h ht
  exact List.mem_flatMap.2 ⟨u, hu, (mem_checkTerm_congr h hkind hholding.symm).1 hf⟩

/-- **The first finding of a key depends on what the plan holds only**, unless it is an overload. -/
theorem find?_sweep_congr (h : p.holdings = q.holdings)
    {k : CourseCode × FindingKind × String} (hkind : k.2.1 ≠ .overload) :
    (p.sweep threshold).find? (fun g => decide (g.key = k)) =
      (q.sweep threshold).find? (fun g => decide (g.key = k)) := by
  rw [sweep, sweep, List.find?_flatMap, List.find?_flatMap]
  -- Terms correspond in order, and in each of them there is at most one candidate.
  apply findSome?_terms_congr h
  intro t u htu
  apply find?_congr_of_unique
  · intro f hkey
    have hk : f.key = k := of_decide_eq_true hkey
    apply mem_checkTerm_congr h _ htu
    rw [← hk] at hkind
    exact hkind
  · intro f hf g hg hfk hgk
    obtain ⟨⟨a, _⟩, -, hf⟩ := List.mem_flatMap.1 hf
    obtain ⟨⟨b, _⟩, -, hg⟩ := List.mem_flatMap.1 hg
    have hkey : f.key = g.key := (of_decide_eq_true hfk).trans (of_decide_eq_true hgk).symm
    exact eq_of_key_eq hf hg hkey

/-- Plans that hold the same are both valid or both invalid. -/
theorem isValid_review_congr (h : p.holdings = q.holdings) :
    (p.review threshold).isValid = (q.review threshold).isValid := by
  suffices hvalid : ∀ {p q : Plan}, p.holdings = q.holdings →
      (p.review threshold).isValid = true → (q.review threshold).isValid = true from
    Bool.eq_iff_iff.2 ⟨hvalid h, hvalid h.symm⟩
  intro p q h hp
  rw [isValid_review] at hp ⊢
  intro f hf
  by_cases hkind : f.kind = .overload
  -- An overload is a warning.
  · rw [isError_of_mem_sweep hf, hkind]
    rfl
  · exact hp f ((mem_sweep_congr h hkind).2 hf)

/-- Plans that hold the same have the same findings of every other kind than overload. -/
theorem mem_ofKind_review_congr (h : p.holdings = q.holdings) {kind : FindingKind}
    (hkind : kind ≠ .overload) :
    f ∈ (p.review threshold).ofKind kind ↔ f ∈ (q.review threshold).ofKind kind := by
  simp only [Report.ofKind, List.mem_filter, mem_findings_review, decide_eq_true_eq]
  apply and_congr_left
  intro hf
  have hkey : f.key.2.1 ≠ .overload := by
    show f.kind ≠ .overload
    rwa [hf]
  rw [find?_sweep_congr h hkey]

/-! ## Placing in another order -/

/-- **The order of planning does not matter.**  If two plans are made from empty ones by the same
placements in different orders, then the reviews of the two give the same verdict and show the same
findings, details included, of every kind but overloads; and the reviews of any addition to them are
the same. -/
theorem reviews_of_perm (name name' : String) {steps steps' : List (Nat × Course)}
    (hperm : steps.Perm steps') (hsteps : ∀ step ∈ steps, step.1 < termCount) :
    ∃ p p', (Plan.new name).placeAll steps = .ok p ∧ (Plan.new name').placeAll steps' = .ok p' ∧
      ∀ threshold,
        (p.review threshold).isValid = (p'.review threshold).isValid ∧
        (∀ kind, kind ≠ .overload → ∀ f,
          f ∈ (p.review threshold).ofKind kind ↔ f ∈ (p'.review threshold).ofKind kind) ∧
        ∀ index c, p.reviewAddition threshold index c = p'.reviewAddition threshold index c := by
  have hsteps' : ∀ step ∈ steps', step.1 < termCount := by
    intro step hstep
    exact hsteps step (hperm.mem_iff.2 hstep)
  have hholdings : ((Plan.new name).placingAll steps).holdings =
      ((Plan.new name').placingAll steps').holdings := by
    have hstart : (Plan.new name).holdings = (Plan.new name').holdings := rfl
    rw [holdings_placingAll_of_perm hperm, holdings_placingAll, holdings_placingAll, hstart]
  refine ⟨_, _, placeAll_eq_ok hsteps, placeAll_eq_ok hsteps', ?_⟩
  intro threshold
  refine ⟨isValid_review_congr hholdings, ?_, ?_⟩
  · intro kind hkind f
    exact mem_ofKind_review_congr hholdings hkind
  · intro index c
    exact reviewAddition_congr hholdings

/-- Placements of a course that has the same findings, with other details, in two terms. -/
def demandingSteps : List (Nat × Course) :=
  [(1, demandingCourse), (0, demandedCourse), (0, demandingCourse), (1, demandedCourse)]

/-- Placements of courses with requirements, and the same ones in reverse. -/
theorem reviews_of_perm_demanding :
    (demandingSteps.Perm demandingSteps.reverse ∧
      ∀ step ∈ demandingSteps, step.1 < termCount) ∧
    ∃ p p', (Plan.new "sample").placeAll demandingSteps = .ok p ∧
      (Plan.new "sample").placeAll demandingSteps.reverse = .ok p' ∧
      ∀ threshold,
        (p.review threshold).isValid = (p'.review threshold).isValid ∧
        (∀ kind, kind ≠ .overload → ∀ f,
          f ∈ (p.review threshold).ofKind kind ↔ f ∈ (p'.review threshold).ofKind kind) ∧
        ∀ index c, p.reviewAddition threshold index c = p'.reviewAddition threshold index c := by
  have hperm : demandingSteps.Perm demandingSteps.reverse := (List.reverse_perm _).symm
  have hsteps : ∀ step ∈ demandingSteps, step.1 < termCount := by decide
  exact ⟨⟨hperm, hsteps⟩, reviews_of_perm "sample" "sample" hperm hsteps⟩

end Plan

end CoursePlan
