import CoursePlan.Proofs.Plan.Placing
import Mathlib.Data.List.Basic

/-!
# Reviews of a plan that fills up

The more courses a plan holds, the fewer demands for courses are left open in it, and the more
courses there are to be in conflict with.  Levels have nothing to do with what is placed.

This is said of any two plans of which one lies `Within` the other, that is, has in each term no
codes that the other lacks there (`Plan.progress_of_within`).  Placing a course leads from the inner
to the outer plan and removing one leads back, even if the code stays placed elsewhere
(`Plan.progress_place_remove`).
-/

namespace CoursePlan

/-! ## Keeping less of a list -/

/-- What is read off a list shrinks when fewer of the members that yield something are kept. -/
theorem filterMap_filter_sublist {α β : Type} {p q : α → Bool} {f : α → Option β} {l : List α}
    (h : ∀ a ∈ l, ∀ b, f a = some b → q a = true → p a = true) :
    ((l.filter q).filterMap f).Sublist ((l.filter p).filterMap f) := by
  rw [List.filterMap_filter, List.filterMap_filter]
  induction l with
  | nil => exact .slnil
  | cons a l ih =>
    obtain ⟨ha, hl⟩ := List.forall_mem_cons.1 h
    have hrest := ih hl
    -- Whether the head is kept matters only if something is read off it.
    cases hf : f a with
    | none => simpa [hf] using hrest
    | some b =>
      cases hq : q a with
      | true => simpa [hf, hq, ha b hf hq] using hrest
      | false =>
        cases hp : p a with
        | true => simpa [hf, hq, hp] using hrest.cons b
        | false => simpa [hf, hq, hp] using hrest

/-! ## Plans within others -/

namespace Plan

/-- Each term of the outer plan holds the codes that the same term of the inner plan holds. -/
def Within (p q : Plan) : Prop :=
  ∀ t ∈ p.terms, ∀ code ∈ t.codes, ∃ u ∈ q.terms, u.index = t.index ∧ code ∈ u.codes

variable {p q : Plan} {threshold index : Nat} {c : Course} {kind : FindingKind}

/-- Before any term, a plan has no codes but those of a plan that it is within. -/
theorem Within.codesBefore (h : p.Within q) :
    ∀ code ∈ p.codesBefore index, code ∈ q.codesBefore index := by
  intro code hcode
  simp only [Plan.codesBefore, List.mem_flatMap, List.mem_filter, decide_eq_true_eq] at hcode ⊢
  obtain ⟨t, ⟨ht, hlt⟩, hmem⟩ := hcode
  obtain ⟨u, hu, hindex, hmem'⟩ := h t ht code hmem
  exact ⟨u, ⟨hu, hindex ▸ hlt⟩, hmem'⟩

/-- A plan has no codes but those of a plan that it is within. -/
theorem Within.allCodes (h : p.Within q) : ∀ code ∈ p.allCodes, code ∈ q.allCodes := by
  intro code hcode
  obtain ⟨t, ht, hmem⟩ := List.mem_flatMap.1 hcode
  obtain ⟨u, hu, -, hmem'⟩ := h t ht code hmem
  exact List.mem_flatMap.2 ⟨u, hu, hmem'⟩

section Modify

variable {change : Term → Term} {keeps : ∀ t, (change t).index = t.index}

/-- A change that takes no code from a term takes none from the plan. -/
theorem within_modifyTerm (h : ∀ t, ∀ code ∈ t.codes, code ∈ (change t).codes) :
    p.Within (p.modifyTerm index change keeps) := by
  intro t ht code hcode
  refine ⟨_, List.mem_map.2 ⟨t, ht, rfl⟩, ?_⟩
  split
  · exact ⟨keeps t, h t code hcode⟩
  · exact ⟨rfl, hcode⟩

/-- A change that adds no code to a term adds none to the plan. -/
theorem modifyTerm_within (h : ∀ t, ∀ code ∈ (change t).codes, code ∈ t.codes) :
    (p.modifyTerm index change keeps).Within p := by
  intro u hu code hcode
  obtain ⟨t, ht, rfl⟩ := List.mem_map.1 hu
  refine ⟨t, ht, ?_⟩
  split at hcode
  · next hindex => exact ⟨by rw [if_pos hindex, keeps t], h t code hcode⟩
  · next hindex => exact ⟨by rw [if_neg hindex], hcode⟩

end Modify

/-- Placing a course takes no code from the plan. -/
theorem within_placing (p : Plan) (index : Nat) (c : Course) : p.Within (p.placing index c) := by
  apply within_modifyTerm
  intro t code hcode
  rw [Term.codes_add]
  exact List.mem_append_left _ hcode

/-- Placing a course leads to a plan with the old one within it. -/
theorem within_of_place (h : p.place index c = .ok q) : p.Within q := by
  unfold place at h
  split at h
  · cases h
  · cases h
    exact within_placing p index c

/-- Removing a course leads to a plan within the old one. -/
theorem within_of_remove {code : CourseCode} (h : p.remove index code = .ok (c, q)) :
    q.Within p := by
  unfold remove at h
  split at h
  · cases h
  split at h
  · cases h
  · cases h
    apply modifyTerm_within
    intro t code' hcode
    obtain ⟨placement, hmem, rfl⟩ := List.mem_map.1 hcode
    exact List.mem_map.2 ⟨placement, List.eraseP_subset hmem, rfl⟩

/-! ## What the rules find in them -/

/-- In the outer plan, no requirement is unmet that was met in the inner one. -/
theorem unmet_sublist (h : p.Within q) : (q.unmet index c).Sublist (p.unmet index c) := by
  apply filterMap_filter_sublist
  intro r _ f hfind hunmet
  rw [Bool.not_eq_true', Bool.eq_false_iff] at hunmet ⊢
  intro hsat
  apply hunmet
  exact Demand.isSatisfied_mono h.codesBefore (fun l hl => ⟨l, hl, Nat.le_refl _⟩)
    (demand_ne_of_unmetFinding? hfind) hsat

/-- In the outer plan, the conflicts of the inner one are still there. -/
theorem conflicts_sublist (h : p.Within q) : (p.conflicts c).Sublist (q.conflicts c) := by
  apply List.Sublist.map
  apply List.monotone_filter_right
  intro other hother
  rw [Bool.and_eq_true, decide_eq_true_eq, decide_eq_true_eq] at hother ⊢
  exact ⟨hother.1, h.allCodes other hother.2⟩

/-- What is reported as a level is a demand of a level. -/
theorem level_of_unmetFinding? {r : Requirement} {f : Finding}
    (h : unmetFinding? index c r = some f) (hkind : f.kind = .level) :
    ∃ l program, r.demand = .level l program := by
  unfold unmetFinding? at h
  split at h
  · cases h
    cases hkind
  · next l program hd => exact ⟨l, program, hd⟩
  · cases h
    cases hkind
  · cases h

/-- Unmet levels do not depend on the plan. -/
theorem filter_level_unmet_sublist (p q : Plan) (index : Nat) (c : Course) :
    ((p.unmet index c).filter (fun f => decide (f.kind = .level))).Sublist
      ((q.unmet index c).filter (fun f => decide (f.kind = .level))) := by
  simp only [unmet, List.filter_filterMap]
  apply filterMap_filter_sublist
  intro r _ f hfind hunmet
  obtain ⟨hfind, hkind⟩ := Option.filter_eq_some_iff.1 hfind
  obtain ⟨l, program, hd⟩ := level_of_unmetFinding? hfind (of_decide_eq_true hkind)
  rw [Requirement.isSatisfied, hd] at hunmet ⊢
  exact hunmet

/-- A level is asked for or not whatever is placed. -/
theorem filter_level_unmet (p q : Plan) (index : Nat) (c : Course) :
    (p.unmet index c).filter (fun f => decide (f.kind = .level)) =
      (q.unmet index c).filter (fun f => decide (f.kind = .level)) :=
  (filter_level_unmet_sublist p q index c).antisymm (filter_level_unmet_sublist q p index c)

end Plan

/-! ## Findings of one kind -/

theorem Finding.filter_kind (fs : List Finding) {own : FindingKind} (h : ∀ f ∈ fs, f.kind = own)
    (kind : FindingKind) :
    fs.filter (fun f => decide (f.kind = kind)) = if own = kind then fs else [] := by
  split
  · next heq =>
    apply List.filter_eq_self.2
    intro f hf
    rw [h f hf, heq, decide_eq_true rfl]
  · next hne =>
    apply List.filter_eq_nil_iff.2
    intro f hf
    rw [h f hf, decide_eq_true_eq]
    exact hne

/-- Where the kind decides which list a finding goes to, the findings of one kind keep their
order. -/
theorem Report.ofKind_ofFindings {fs : List Finding} {kind : FindingKind} (e : FindingKind → Bool)
    (h : ∀ f ∈ fs, f.isError = e f.kind) :
    (ofFindings fs).ofKind kind = fs.filter (fun f => decide (f.kind = kind)) := by
  have hside : ∀ f ∈ fs.filter (fun f => decide (f.kind = kind)), f.isError = e kind := by
    intro f hf
    obtain ⟨hmem, hkind⟩ := List.mem_filter.1 hf
    rw [h f hmem, of_decide_eq_true hkind]
  show (fs.filter Finding.isError ++ fs.filter fun f => !f.isError).filter _ = _
  rw [List.filter_append, List.filter_comm _ Finding.isError,
    List.filter_comm _ (fun f : Finding => !f.isError)]
  generalize fs.filter (fun f => decide (f.kind = kind)) = gs at hside ⊢
  -- All of them are on one side.
  cases he : e kind with
  | true =>
    rw [List.filter_eq_self.2 fun f hf => by rw [hside f hf, he],
      List.filter_eq_nil_iff.2 fun f hf => by simp [hside f hf, he], List.append_nil]
  | false =>
    rw [List.filter_eq_nil_iff.2 fun f hf => by simp [hside f hf, he],
      List.filter_eq_self.2 fun f hf => by simp [hside f hf, he], List.nil_append]

namespace Plan

variable {p q : Plan} {threshold index : Nat} {c : Course} {kind : FindingKind} {f : Finding}

/-- Of the findings about a course, those of one kind come from the one rule for that kind. -/
theorem filter_check (kind : FindingKind) (before : Option Nat) :
    (p.check threshold index c before).filter (fun f => decide (f.kind = kind)) =
      match kind with
      | .duplicate => p.duplicates index c
      | .antirequisite => p.conflicts c
      | .overload => (before.map fun n => overloads threshold (n + 1) c).getD []
      | demanded => (p.unmet index c).filter (fun f => decide (f.kind = demanded)) := by
  have hduplicates := Finding.filter_kind (p.duplicates index c) fun _ => kind_of_mem_duplicates
  have hconflicts := Finding.filter_kind (p.conflicts c) fun _ => kind_of_mem_conflicts
  have hoverloads (n : Nat) :=
    Finding.filter_kind (overloads threshold n c) fun _ => kind_of_mem_overloads
  -- The rule about requirements has three kinds of findings; it has none of the others.
  have hunmet : ∀ kind, kind ≠ .prerequisite → kind ≠ .corequisite → kind ≠ .level →
      (p.unmet index c).filter (fun f => decide (f.kind = kind)) = [] := by
    intro kind hpre hco hlevel
    apply List.filter_eq_nil_iff.2
    intro f hf
    rw [decide_eq_true_eq]
    rintro rfl
    rcases kind_of_mem_unmet hf with h | h | h
    · exact hpre h
    · exact hco h
    · exact hlevel h
  unfold check
  cases kind <;> cases before <;>
    simp [List.filter_append, hduplicates, hconflicts, hoverloads, hunmet]

/-- The review of an addition has of each kind what the checks find of it. -/
theorem ofKind_reviewAddition (kind : FindingKind) :
    (p.reviewAddition threshold index c).ofKind kind =
      (p.check threshold index c ((p.term? index).map (·.placements.length))).filter
        (fun f => decide (f.kind = kind)) := by
  rw [reviewAddition_eq]
  apply Report.ofKind_ofFindings fun kind =>
    decide (kind = .prerequisite ∨ kind = .antirequisite)
  intro f hf
  exact isError_of_mem_check hf

end Plan

/-! ## Progress -/

/-- How a report on a course changes when the plan fills up: demands for courses are met or stay
open, levels stay as they are, and conflicts stay or come up. -/
structure Report.Progress (before after : Report) : Prop where
  prerequisite : (after.ofKind .prerequisite).Sublist (before.ofKind .prerequisite)
  corequisite : (after.ofKind .corequisite).Sublist (before.ofKind .corequisite)
  level : after.ofKind .level = before.ofKind .level
  antirequisite : (before.ofKind .antirequisite).Sublist (after.ofKind .antirequisite)

namespace Plan

variable {p q : Plan}

/-- **A report makes progress from a plan to one that it lies within.** -/
theorem progress_of_within (h : p.Within q) (threshold index : Nat) (c : Course) :
    Report.Progress (p.reviewAddition threshold index c) (q.reviewAddition threshold index c) where
  prerequisite := by
    simp only [ofKind_reviewAddition, filter_check]
    exact (unmet_sublist h).filter _
  corequisite := by
    simp only [ofKind_reviewAddition, filter_check]
    exact (unmet_sublist h).filter _
  level := by
    simp only [ofKind_reviewAddition, filter_check]
    exact filter_level_unmet q p index c
  antirequisite := by
    simp only [ofKind_reviewAddition, filter_check]
    exact conflicts_sublist h

/-- **Placing a course makes progress in every report, and removing one undoes it.**  Whatever
course is about to be added to whatever term, even one behind the end of the plan: once another
course is placed, the addition misses no more prerequisites and corequisites than before, asks for
the same levels and has all the conflicts that it had; and the other way round once a course is
removed. -/
theorem progress_place_remove (p : Plan) (threshold index : Nat) (c : Course) :
    (∀ i x p', p.place i x = .ok p' →
      Report.Progress (p.reviewAddition threshold index c)
        (p'.reviewAddition threshold index c)) ∧
    ∀ i code x p', p.remove i code = .ok (x, p') →
      Report.Progress (p'.reviewAddition threshold index c)
        (p.reviewAddition threshold index c) := by
  constructor
  · intro i x p' h
    exact progress_of_within (within_of_place h) threshold index c
  · intro i code x p' h
    exact progress_of_within (within_of_remove h) threshold index c

/-- `MATH 239`, which makes a demand of each kind. -/
def demandingCourse : Course :=
  (Course.new (.drawn 0) ⟨['M', 'A', 'T', 'H'], ['2', '3', '9'], rfl, rfl⟩).withRequisites
    "Prereq: MATH 135; Coreq: MATH 136; Level at least 2A; Antireq: MATH 249"

/-- `MATH 135`, of which nothing is demanded. -/
def demandedCourse : Course :=
  Course.new (.drawn 1) ⟨['M', 'A', 'T', 'H'], ['1', '3', '5'], rfl, rfl⟩

/-- The plan with `MATH 135` in 1A and nothing else. -/
def demandedPlan : Plan :=
  (Plan.new "sample").placing 0 demandedCourse

/-- A prerequisite is placed in 1A and removed again, seen from 2A and from past the last term. -/
theorem progress_place_remove_demanded :
    ((Plan.new "sample").place 0 demandedCourse = .ok demandedPlan ∧
      demandedPlan.remove 0 demandedCourse.code = .ok (demandedCourse, Plan.new "sample")) ∧
    Report.Progress ((Plan.new "sample").reviewAddition 6 2 demandingCourse)
      (demandedPlan.reviewAddition 6 2 demandingCourse) ∧
    Report.Progress ((Plan.new "sample").reviewAddition 6 9 demandingCourse)
      (demandedPlan.reviewAddition 6 9 demandingCourse) := by
  have hplace : (Plan.new "sample").place 0 demandedCourse = .ok demandedPlan := rfl
  have hremove : demandedPlan.remove 0 demandedCourse.code =
      .ok (demandedCourse, Plan.new "sample") := by decide +kernel
  exact ⟨⟨hplace, hremove⟩,
    (progress_place_remove (Plan.new "sample") 6 2 demandingCourse).1 0 demandedCourse demandedPlan
      hplace,
    (progress_place_remove demandedPlan 6 9 demandingCourse).2 0 demandedCourse.code demandedCourse
      (Plan.new "sample") hremove⟩

end Plan

end CoursePlan
