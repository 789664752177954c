import CoursePlan.Proofs.PlanFile.Rewording
import CoursePlan.Proofs.Review.Alike
import CoursePlan.Proofs.Review.Committing

/-!
# Reviews of a plan that is loaded again

Loading a plan file twice draws other ids for the entries without one.  Up to a renaming of these
ids the two plans are the same, so that they are alike, and so are the courses of their catalogs.
Hence every review of the one is a review of the other (`Plan.reviews_of_alike`).
-/

namespace CoursePlan

variable {ρ : CourseId → CourseId}

/-! ## Plans with other placements -/

/-- A course under a new id is like the old one. -/
theorem Course.alike_renamed (c : Course) : c.Alike ρ (c.renamed ρ) :=
  ⟨rfl, rfl, rfl, rfl⟩

namespace Plan

/-- The plan under a name, with all placements changed one by one. -/
def mapPlacements (p : Plan) (name : String) (change : Placement → Placement) : Plan where
  name := name
  terms := p.terms.map (fun t => { t with placements := t.placements.map change })
  ordered := by
    rw [← p.ordered, List.map_map]
    rfl

/-- A change that renames ids and renumbers positions leads to a plan that is alike. -/
theorem alike_mapPlacements {p : Plan} (name : String) {change : Placement → Placement}
    (σ : UInt32 → UInt32) (hchange : ∀ a : Placement, a.Alike ρ σ (change a))
    (horder : ∀ t ∈ p.terms, ∀ a ∈ t.placements, ∀ b ∈ t.placements, a.position < b.position →
      σ a.position < σ b.position)
    (hapart : ∀ c ∈ p.courses, p.KeepsApart ρ c) : p.Alike ρ (p.mapPlacements name change) where
  terms := by
    rw [mapPlacements, List.forall₂_map_right_iff, List.forall₂_same]
    intro t ht
    refine ⟨rfl, σ, horder t ht, ?_⟩
    rw [List.forall₂_map_right_iff, List.forall₂_same]
    intro a _
    exact hchange a
  apart := hapart

/-- Renaming ids leads to a plan that is alike. -/
theorem alike_renamed {p : Plan} (hapart : ∀ c ∈ p.courses, p.KeepsApart ρ c) :
    p.Alike ρ (p.renamed ρ) :=
  alike_mapPlacements p.name id (fun a => ⟨a.course.alike_renamed, rfl⟩)
    (fun _ _ _ _ _ _ hlt => hlt) hapart

theorem mem_courses_filled {name : String} {courses : Nat → List Course} {c : Course}
    (h : c ∈ (filled name courses).courses) : ∃ index, c ∈ courses index := by
  obtain ⟨t, ht, hc⟩ := mem_courses.1 h
  obtain ⟨index, -, rfl⟩ := List.mem_map.1 ht
  rw [Term.courses_addAll] at hc
  exact ⟨index, hc⟩

end Plan

/-! ## Loading twice -/

namespace PlanFile

/-- Every file is a rewording of itself. -/
theorem Reworded.refl (f : PlanFile) : f.Reworded f where
  name := rfl
  program := rfl
  catalog := ⟨_, List.Perm.refl _, List.forall₂_same.2 fun _ _ => ⟨rfl, rfl⟩⟩
  sections := ⟨_, List.Perm.refl _, List.forall₂_same.2 fun _ _ =>
    ⟨fun _ => Iff.rfl, List.forall₂_same.2 fun _ _ => rfl⟩⟩

variable {f : PlanFile}

/-- Only courses of the catalog are placed. -/
theorem mem_courses_plan {serial : Nat} {c : Course} (h : c ∈ (f.plan serial).courses) :
    c ∈ f.courses serial := by
  obtain ⟨index, hplaced⟩ := Plan.mem_courses_filled h
  obtain ⟨s, -, hs⟩ := List.mem_flatMap.1 hplaced
  split at hs
  · obtain ⟨written, -, hwritten⟩ := List.mem_filterMap.1 hs
    obtain ⟨code, -, hfind⟩ := Option.bind_eq_some_iff.1 hwritten
    exact List.mem_of_find?_eq_some hfind
  · cases hs

/-- The plans of two loads are alike, and a code refers to courses that are alike. -/
theorem Sound.exists_alike (h : f.Sound) (serial serial' : Nat) :
    ∃ ρ, (f.plan serial).Alike ρ (f.plan serial') ∧
      (∀ c ∈ f.courses serial, (f.plan serial).KeepsApart ρ c) ∧
      ∀ code, (f.courses serial').find? code =
        ((f.courses serial).find? code).map (Course.renamed ρ) := by
  have hagrees := (Reworded.refl f).agrees serial serial'
  have hfind := hagrees.find?_eq (h.distinct serial) (h.distinct serial')
  have hredraws := hagrees.redraws (h.distinct serial) (h.distinct serial')
  have hapart : ∀ c ∈ f.courses serial, (f.plan serial).KeepsApart
      ((f.courses serial).redraw (f.courses serial')) c := by
    intro c hc d hd heq
    exact hredraws.distinct d (mem_courses_plan hd) c hc heq
  refine ⟨_, ?_, hapart, hfind⟩
  rw [(Reworded.refl f).plan_eq h hfind]
  exact Plan.alike_renamed fun c hc => hapart c (mem_courses_plan hc)

/-- What comes out the same for both plans of a sound file comes out the same for two loads; without
a sound file, both find the same fault. -/
theorem load_map_eq {α : Type} {view : LoadedPlan → α} {serial serial' : Nat}
    (h : f.Sound → view ⟨f.plan serial, f.courses serial⟩ =
      view ⟨f.plan serial', f.courses serial'⟩) :
    (f.load serial).map view = (f.load serial').map view := by
  rw [load_eq, load_eq]
  cases hfaults : f.faults with
  | nil => exact congrArg Except.ok (h (faults_eq_nil_iff.1 hfaults))
  | cons fault faults => rfl

end PlanFile

namespace Plan

/-- **Reviews see nothing but labels, codes, requisites, which ids are the same and which positions
come first.**  They are the same for two plans that are alike, and so are the reviews of adding
courses that are alike.  In particular they do not depend on the ids that are drawn when a plan file
is loaded. -/
theorem reviews_of_alike :
    (∀ (ρ : CourseId → CourseId) (p q : Plan), p.Alike ρ q → ∀ threshold,
      p.review threshold = q.review threshold ∧
        ∀ index c d, c.Alike ρ d → p.KeepsApart ρ c →
          p.reviewAddition threshold index c = q.reviewAddition threshold index d) ∧
    ∀ (f : PlanFile) serial serial' threshold,
      (f.load serial).map (fun l => l.plan.review threshold) =
        (f.load serial').map (fun l => l.plan.review threshold) ∧
      ∀ index code,
        (f.load serial).map
            (fun l => (l.catalog.find? code).map (l.plan.reviewAddition threshold index)) =
          (f.load serial').map
            (fun l => (l.catalog.find? code).map (l.plan.reviewAddition threshold index)) := by
  constructor
  · intro ρ p q h threshold
    refine ⟨h.review_eq threshold, ?_⟩
    intro index c d hc hapart
    exact h.reviewAddition_eq threshold index hc hapart
  · intro f serial serial' threshold
    constructor
    · apply PlanFile.load_map_eq
      intro hf
      obtain ⟨ρ, halike, -, -⟩ := hf.exists_alike serial serial'
      exact halike.review_eq threshold
    · intro index code
      apply PlanFile.load_map_eq
      intro hf
      obtain ⟨ρ, halike, hapart, hfind⟩ := hf.exists_alike serial serial'
      simp only [hfind, Option.map_map]
      apply Option.map_congr
      intro c hc
      exact halike.reviewAddition_eq threshold index c.alike_renamed
        (hapart c (List.mem_of_find?_eq_some hc))

/-- A plan with a course that is placed twice and another one that is displayed behind it, although
it was placed before. -/
def crowdedPlan : Plan where
  name := "sample"
  terms := ⟨0, "1A", [⟨excludingCourse, 5⟩, ⟨excludedCourse, 3⟩]⟩ ::
    ⟨1, "1B", [⟨excludedCourse, 0⟩]⟩ :: (List.range 6).map (fun i => Term.empty (i + 2))
  ordered := by decide

def drawnLater : CourseId → CourseId
  | .assigned v => .assigned v
  | .drawn serial => .drawn (serial + 7)

theorem drawnLater_injective : Function.Injective drawnLater := by
  rintro (v | m) (w | n) h
  · exact h
  · cases h
  · cases h
  · simpa [drawnLater] using h

/-- The placement with another id, another position and a title. -/
def rewritten (a : Placement) : Placement :=
  ⟨(a.course.renamed drawnLater).withTitle "Algorithms", 2 * a.position + 9⟩

/-- A crowded plan and its copy with other ids, other positions and new titles. -/
theorem reviews_of_alike_crowded :
    (crowdedPlan.Alike drawnLater (crowdedPlan.mapPlacements "copy" rewritten) ∧
      excludedCourse.Alike drawnLater (rewritten ⟨excludedCourse, 0⟩).course ∧
      crowdedPlan.KeepsApart drawnLater excludedCourse ∧
      (crowdedPlan.review 1).isValid = false ∧
      (crowdedPlan.reviewAddition 1 0 excludedCourse).findings.length = 2) ∧
    crowdedPlan.review 1 = (crowdedPlan.mapPlacements "copy" rewritten).review 1 ∧
    crowdedPlan.reviewAddition 1 0 excludedCourse =
      (crowdedPlan.mapPlacements "copy" rewritten).reviewAddition 1 0
        (rewritten ⟨excludedCourse, 0⟩).course := by
  have hapart : ∀ c, crowdedPlan.KeepsApart drawnLater c :=
    fun _ _ _ heq => drawnLater_injective heq
  have halike : crowdedPlan.Alike drawnLater (crowdedPlan.mapPlacements "copy" rewritten) :=
    alike_mapPlacements "copy" (2 * · + 9) (fun _ => ⟨⟨rfl, rfl, rfl, rfl⟩, rfl⟩) (by decide)
      fun c _ => hapart c
  have hcourse : excludedCourse.Alike drawnLater (rewritten ⟨excludedCourse, 0⟩).course :=
    ⟨rfl, rfl, rfl, rfl⟩
  have hinvalid : (crowdedPlan.review 1).isValid = false := by
    rw [Bool.eq_false_iff, Ne, isValid_review_iff]
    decide +kernel
  obtain ⟨hreview, haddition⟩ := reviews_of_alike.1 drawnLater _ _ halike 1
  exact ⟨⟨halike, hcourse, hapart excludedCourse, hinvalid, by decide +kernel⟩, hreview,
    haddition 0 excludedCourse _ hcourse (hapart excludedCourse)⟩

end Plan

end CoursePlan
