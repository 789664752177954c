import CoursePlan.Proofs.PlanFile.Loading

/-!
# The labels of terms

Every plan was new or loaded once, and after that courses were placed in it and removed from it
(`Plan.Built`).  None of this touches a label, so that the terms of all plans have their usual
labels (`Plan.Built.labelled`), although the label of a `Term` is a text that could be any.
-/

namespace CoursePlan.Plan

/-- How plans come about. -/
inductive Built : Plan → Prop where
  | new (name : String) : Built (Plan.new name)
  | loaded {serial : Nat} {text : String} {l : LoadedPlan}
      (h : PlanFile.loadText serial text = .ok l) : Built l.plan
  | placed {p p' : Plan} {index : Nat} {c : Course} (hp : Built p)
      (h : p.place index c = .ok p') : Built p'
  | removed {p p' : Plan} {index : Nat} {code : CourseCode} {c : Course} (hp : Built p)
      (h : p.remove index code = .ok (c, p')) : Built p'

/-- Every term has the label of its index. -/
def Labelled (p : Plan) : Prop :=
  ∀ t ∈ p.terms, t.label = (Level.ofIndex t.index).label

/-! ## Plans to start from -/

theorem labelled_filled (name : String) (courses : Nat → List Course) :
    (filled name courses).Labelled := by
  intro t ht
  obtain ⟨i, -, rfl⟩ := List.mem_map.1 ht
  rw [Term.label_addAll, Term.index_addAll]
  rfl

theorem labelled_new (name : String) : (Plan.new name).Labelled := by
  intro t ht
  obtain ⟨i, -, rfl⟩ := List.mem_map.1 ht
  rfl

/-- A plan that was loaded has the labels of its indices, however the file spells them. -/
theorem labelled_of_loadText {serial : Nat} {text : String} {l : LoadedPlan}
    (h : PlanFile.loadText serial text = .ok l) : l.plan.Labelled := by
  unfold PlanFile.loadText at h
  split at h
  · rw [PlanFile.load_eq, firstFaultOr_eq_ok_iff] at h
    obtain ⟨-, rfl⟩ := h
    exact labelled_filled _ _
  · cases h

/-! ## Changes -/

variable {p p' : Plan}

/-- Changing the courses of a term does not change its label. -/
theorem Labelled.modifyTerm {index : Nat} {change : Term → Term}
    {keeps : ∀ t, (change t).index = t.index} (h : p.Labelled)
    (hchange : ∀ t, (change t).label = t.label) :
    (p.modifyTerm index change keeps).Labelled := by
  intro u hu
  obtain ⟨t, ht, rfl⟩ := List.mem_map.1 hu
  split
  · rw [hchange, keeps]
    exact h t ht
  · exact h t ht

/-- Placing a course changes no label. -/
theorem Labelled.place {index : Nat} {c : Course} (h : p.Labelled)
    (hplace : p.place index c = .ok p') : p'.Labelled := by
  unfold Plan.place at hplace
  split at hplace
  · cases hplace
  · cases hplace
    exact h.modifyTerm fun _ => rfl

theorem Labelled.remove {index : Nat} {code : CourseCode} {c : Course} (h : p.Labelled)
    (hremove : p.remove index code = .ok (c, p')) : p'.Labelled := by
  unfold Plan.remove at hremove
  split at hremove
  · cases hremove
  · split at hremove
    · cases hremove
    · cases hremove
      exact h.modifyTerm fun _ => rfl

/-- **The terms of every plan have their usual labels**, however it came about. -/
theorem Built.labelled (h : p.Built) : p.Labelled := by
  induction h with
  | new name => exact labelled_new name
  | loaded h => exact labelled_of_loadText h
  | placed _ h ih => exact ih.place h
  | removed _ h ih => exact ih.remove h

end CoursePlan.Plan
