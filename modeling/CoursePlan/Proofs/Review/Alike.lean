import CoursePlan.Proofs.Correspondence
import CoursePlan.Proofs.Plan.Placing
import CoursePlan.Proofs.Review.Findings

/-!
# What a review does not look at

Names, titles and units never come up in a review.  Ids are only compared with each other, and
positions only put into order with the others of their term.  So two plans that differ in nothing
else, with ids renamed and positions renumbered accordingly, are `Plan.Alike`, and reviews cannot
tell them apart (`Plan.Alike.review_eq`, `Plan.Alike.reviewAddition_eq`).
-/

namespace CoursePlan

variable {ρ : CourseId → CourseId}

/-! ## Courses and plans that are alike -/

/-- The courses are alike, the second having the new name of the id of the first. -/
structure Course.Alike (ρ : CourseId → CourseId) (c d : Course) : Prop where
  id : d.id = ρ c.id
  code : d.code = c.code
  requisites : d.requisites = c.requisites
  hasRequirements : d.hasRequirements = c.hasRequirements

/-- The placements are of courses that are alike, and the second has the new number of the position
of the first. -/
structure Placement.Alike (ρ : CourseId → CourseId) (σ : UInt32 → UInt32) (a b : Placement) :
    Prop where
  course : a.course.Alike ρ b.course
  position : b.position = σ a.position

/-- The terms have the same label, and placements that are alike one by one; positions are
renumbered, but keep their order. -/
structure Term.Alike (ρ : CourseId → CourseId) (t u : Term) : Prop where
  label : u.label = t.label
  placements : ∃ σ : UInt32 → UInt32,
    (∀ a ∈ t.placements, ∀ b ∈ t.placements, a.position < b.position →
      σ a.position < σ b.position) ∧
    List.Forall₂ (Placement.Alike ρ σ) t.placements u.placements

namespace Plan

/-- The courses placed in the plan. -/
def courses (p : Plan) : List Course :=
  p.terms.flatMap Term.courses

/-- The renaming tells the course from all placed courses with other ids. -/
def KeepsApart (p : Plan) (ρ : CourseId → CourseId) (c : Course) : Prop :=
  ∀ d ∈ p.courses, ρ d.id = ρ c.id → d.id = c.id

/-- The terms of the plans are alike one by one, and ids that differ have different new names. -/
structure Alike (ρ : CourseId → CourseId) (p q : Plan) : Prop where
  terms : List.Forall₂ (Term.Alike ρ) p.terms q.terms
  apart : ∀ c ∈ p.courses, p.KeepsApart ρ c

end Plan

/-! ## What courses and terms have in common -/

/-- Courses that are alike have the same requirements. -/
theorem Course.Alike.requirements_eq {c d : Course} (h : c.Alike ρ d) :
    d.requirements = c.requirements := by
  rw [requirements, requirements, h.hasRequirements, h.requisites]

namespace Term

variable {t u : Term} {c d : Course}

theorem mem_courses : c ∈ t.courses ↔ ∃ a ∈ t.placements, a.course = c := List.mem_map

namespace Alike

theorem length_eq (h : t.Alike ρ u) : t.placements.length = u.placements.length := by
  obtain ⟨σ, -, hall⟩ := h.placements
  exact hall.length_eq

theorem courses (h : t.Alike ρ u) : List.Forall₂ (Course.Alike ρ) t.courses u.courses := by
  obtain ⟨σ, -, hall⟩ := h.placements
  rw [Term.courses, Term.courses, List.forall₂_map_left_iff, List.forall₂_map_right_iff]
  exact hall.imp fun _ _ hab => hab.course

theorem codes_eq (h : t.Alike ρ u) : t.codes = u.codes := by
  have hcodes : ∀ t : Term, t.codes = t.courses.map Course.code := by
    intro t
    rw [codes, Term.courses, List.map_map]
    rfl
  rw [hcodes, hcodes]
  exact map_eq_of_forall₂ (fun _ _ hab => hab.code.symm) h.courses

/-- The same course is looked for in both terms, under its two ids. -/
theorem any_id_eq (h : t.Alike ρ u) (hc : c.Alike ρ d)
    (hapart : ∀ e ∈ t.courses, ρ e.id = ρ c.id → e.id = c.id) :
    t.placements.any (fun a => decide (a.course.id = c.id)) =
      u.placements.any (fun b => decide (b.course.id = d.id)) := by
  obtain ⟨σ, -, hall⟩ := h.placements
  apply any_eq_of_forall₂ _ (forall₂_and_mem hall)
  rintro a b ⟨ha, halike⟩
  rw [halike.course.id, hc.id, decide_eq_decide]
  exact ⟨congrArg ρ, hapart a.course (mem_courses.2 ⟨a, ha, rfl⟩)⟩

/-- Placements that are alike are displayed in the same places. -/
theorem displayed (h : t.Alike ρ u) :
    List.Forall₂ (fun a b => a.course.Alike ρ b.course) (Plan.displayed t) (Plan.displayed u) := by
  obtain ⟨σ, hσ, hall⟩ := h.placements
  refine (forall₂_mergeSort hall ?_).imp fun _ _ hab => hab.course
  intro a ha b hb a' b' haa hbb
  rw [haa.position, hbb.position, decide_eq_decide, ← not_iff_not, UInt32.not_le, UInt32.not_le]
  constructor
  · exact hσ b hb a ha
  · intro hlt
    by_contra hle
    rw [UInt32.not_lt] at hle
    rcases UInt32.lt_or_eq_of_le hle with hab | hab
    · exact UInt32.lt_asymm hlt (hσ a ha b hb hab)
    · rw [hab] at hlt
      exact UInt32.lt_irrefl _ hlt

end Alike

end Term

/-! ## What the rules see -/

namespace Plan

variable {p q : Plan} {threshold index : Nat} {c d : Course} {t u : Term}

theorem mem_courses : c ∈ p.courses ↔ ∃ t ∈ p.terms, c ∈ t.courses := List.mem_flatMap

namespace Alike

variable (h : p.Alike ρ q)

include h

/-- Terms that correspond have the same index, as both plans number them in order. -/
theorem terms_index : List.Forall₂
    (fun t u => t ∈ p.terms ∧ t.Alike ρ u ∧ t.index = u.index) p.terms q.terms := by
  have hindex : p.terms.map Term.index = q.terms.map Term.index := p.ordered.trans q.ordered.symm
  rw [← List.forall₂_eq_eq_eq, List.forall₂_map_left_iff, List.forall₂_map_right_iff] at hindex
  exact forall₂_and_mem (h.terms.mp (fun _ _ halike heq => ⟨halike, heq⟩) hindex)

/-- What is read off terms by way of their indices and codes is the same. -/
theorem map_index_codes_eq :
    p.terms.map (fun t => (t.index, t.codes)) = q.terms.map (fun t => (t.index, t.codes)) := by
  apply map_eq_of_forall₂ _ h.terms_index
  rintro t u ⟨-, halike, hindex⟩
  rw [hindex, halike.codes_eq]

theorem codesBefore_eq (index : Nat) : p.codesBefore index = q.codesBefore index := by
  have hcodes : ∀ p : Plan, p.codesBefore index =
      ((p.terms.map (fun t => (t.index, t.codes))).filter
        (fun x => decide (x.1 < index))).flatMap Prod.snd := by
    intro p
    rw [codesBefore, List.filter_map, List.flatMap_map]
    rfl
  rw [hcodes, hcodes, h.map_index_codes_eq]

theorem allCodes_eq : p.allCodes = q.allCodes :=
  flatMap_eq_of_forall₂ (fun _ _ halike => halike.codes_eq) h.terms

/-- A course is a duplicate in both plans or in neither, if the names of ids keep it apart. -/
theorem duplicates_eq (index : Nat) (hc : c.Alike ρ d) (hapart : p.KeepsApart ρ c) :
    p.duplicates index c = q.duplicates index d := by
  have hlabel : (p.otherTerm? index c).map Term.label = (q.otherTerm? index d).map Term.label := by
    apply find?_map_eq_of_forall₂ _ _ h.terms_index
    · rintro t u ⟨ht, halike, hindex⟩
      rw [hindex, halike.any_id_eq hc]
      intro e he
      exact hapart e (mem_courses.2 ⟨t, ht, he⟩)
    · rintro t u ⟨-, halike, -⟩
      exact halike.label.symm
  rw [Plan.duplicates_eq, Plan.duplicates_eq, hlabel, hc.code]

/-- A course has the same unmet requirements in both plans. -/
theorem unmet_eq (index : Nat) (hc : c.Alike ρ d) : p.unmet index c = q.unmet index d := by
  have hfinding : unmetFinding? index d = unmetFinding? index c := by
    funext r
    simp only [unmetFinding?, hc.code]
  simp only [unmet, h.codesBefore_eq, hc.requirements_eq, hfinding]

theorem conflicts_eq (hc : c.Alike ρ d) : p.conflicts c = q.conflicts d := by
  have hfinding : conflictFinding d = conflictFinding c := by
    funext other
    simp only [conflictFinding, hc.code]
  simp only [conflicts, h.allCodes_eq, hc.requirements_eq, hc.code, hfinding]

/-- The rules find the same about courses that are alike. -/
theorem check_eq (threshold index : Nat) (before : Option Nat) (hc : c.Alike ρ d)
    (hapart : p.KeepsApart ρ c) :
    p.check threshold index c before = q.check threshold index d before := by
  have hoverloads : ∀ count, overloads threshold count d = overloads threshold count c := by
    intro count
    simp only [overloads, hc.code]
  simp only [check, h.duplicates_eq index hc hapart, h.unmet_eq index hc, h.conflicts_eq hc,
    hoverloads]

/-- **Additions to plans that are alike get the same review.** -/
theorem reviewAddition_eq (threshold index : Nat) (hc : c.Alike ρ d)
    (hapart : p.KeepsApart ρ c) :
    p.reviewAddition threshold index c = q.reviewAddition threshold index d := by
  have hlengths : p.terms.map (·.placements.length) = q.terms.map (·.placements.length) :=
    map_eq_of_forall₂ (fun _ _ halike => halike.length_eq) h.terms
  have hlength : (p.term? index).map (·.placements.length) =
      (q.term? index).map (·.placements.length) := by
    rw [term?, term?, ← List.getElem?_map, ← List.getElem?_map, hlengths]
  rw [Plan.reviewAddition_eq, Plan.reviewAddition_eq, hlength, h.check_eq _ _ _ hc hapart]

/-- The sweep comes upon courses that are alike at the same time. -/
theorem checkTerm_eq (ht : t ∈ p.terms) (htu : t.Alike ρ u) (hindex : t.index = u.index) :
    p.checkTerm threshold t = q.checkTerm threshold u := by
  apply flatMap_eq_of_forall₂ _ (forall₂_zipIdx (forall₂_and_mem htu.displayed) 0)
  rintro ⟨a, rank⟩ ⟨b, rank'⟩ ⟨⟨ha, hab⟩, hrank⟩
  have hcourse : a.course ∈ p.courses :=
    mem_courses.2 ⟨t, ht, Term.mem_courses.2 ⟨a, mem_displayed.1 ha, rfl⟩⟩
  cases hrank
  rw [hindex]
  exact h.check_eq threshold u.index (some rank) hab (h.apart a.course hcourse)

/-- **Plans that are alike get the same review.** -/
theorem review_eq (threshold : Nat) : p.review threshold = q.review threshold := by
  have hsweep : p.sweep threshold = q.sweep threshold := by
    apply flatMap_eq_of_forall₂ _ h.terms_index
    rintro t u ⟨ht, halike, hindex⟩
    exact h.checkTerm_eq ht halike hindex
  rw [Plan.review_eq, Plan.review_eq, hsweep]

end Alike

end Plan

end CoursePlan
