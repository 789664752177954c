import CoursePlan.Proofs.Plan.Placing
import Mathlib.Data.Multiset.ZeroCons

/-!
# What a plan holds

The *holding* of a term is the courses placed in it, each as often as it is placed, without their
order and their positions.  Placing a course adds it to one holding (`Plan.holdings_placing`), and
additions can be made in any order.  By induction the holdings after a whole sequence of placements
depend on the placements only, not on their order (`Plan.holdings_placingAll_of_perm`).

Two plans with the same holdings have corresponding terms in corresponding places, so that whatever
is computed from terms by way of their holdings comes out the same (`Plan.map_terms_congr`).
-/

namespace CoursePlan

/-! ## Holdings of terms -/

/-- What a term holds: its courses in no order, with repeats. -/
structure Holding where
  index : Nat
  label : String
  courses : Multiset Course

namespace Holding

/-- The holding with one more course. -/
def add (h : Holding) (c : Course) : Holding :=
  { h with courses := c ::ₘ h.courses }

@[simp] theorem index_add (h : Holding) (c : Course) : (h.add c).index = h.index := rfl

/-- Two courses may be added in either order. -/
theorem add_comm (h : Holding) (c d : Course) : (h.add c).add d = (h.add d).add c := by
  rw [add, add, add, add, Multiset.cons_swap]

/-- The holding with one more course, if it is that of the term with the given index. -/
def addAt (index : Nat) (c : Course) (h : Holding) : Holding :=
  if h.index = index then h.add c else h

/-- It does not matter in which order two courses are added, be it to one term or to two. -/
theorem addAt_comm (i j : Nat) (c d : Course) (h : Holding) :
    addAt i c (addAt j d h) = addAt j d (addAt i c h) := by
  have hadd := h.add_comm c d
  grind [addAt, index_add]

end Holding

namespace Term

/-- What the term holds. -/
def holding (t : Term) : Holding :=
  ⟨t.index, t.label, t.placements.map Placement.course⟩

variable {t u : Term}

@[simp] theorem index_holding (t : Term) : t.holding.index = t.index := rfl

/-- A term holds the courses of its placements. -/
theorem mem_courses_holding {c : Course} :
    c ∈ t.holding.courses ↔ ∃ q ∈ t.placements, q.course = c := by
  simp [holding]

/-- A term has the codes of the courses that it holds. -/
theorem mem_codes {code : CourseCode} :
    code ∈ t.codes ↔ ∃ c ∈ t.holding.courses, c.code = code := by
  simp [codes, holding]

@[simp] theorem holding_add (t : Term) (c : Course) : (t.add c).holding = t.holding.add c := by
  have hperm : (t.placements.map Placement.course ++ [c]).Perm
      (c :: t.placements.map Placement.course) := List.perm_append_singleton c _
  simp [holding, add, Holding.add, Multiset.coe_eq_coe.2 hperm]

/-- Terms that hold the same have equally many placements. -/
theorem length_placements_eq (h : t.holding = u.holding) :
    t.placements.length = u.placements.length := by
  have hcard := congrArg (fun h : Holding => Multiset.card h.courses) h
  simpa [holding] using hcard

end Term

/-! ## Holdings of plans -/

/-- Lists that agree in one way member by member agree in every way that depends on the first. -/
theorem map_congr_of_map_eq {α β κ : Type} {k : α → κ} {f g : α → β}
    (hfg : ∀ a b, k a = k b → f a = g b) :
    ∀ {l l' : List α}, l.map k = l'.map k → l.map f = l'.map g
  | [], [], _ => rfl
  | [], _ :: _, h => by cases h
  | _ :: _, [], h => by cases h
  | a :: l, b :: l', h => by
    obtain ⟨hhead, htail⟩ := List.cons.inj h
    rw [List.map_cons, List.map_cons, hfg a b hhead, map_congr_of_map_eq hfg htail]

namespace Plan

/-- What the terms of the plan hold. -/
def holdings (p : Plan) : List Holding :=
  p.terms.map Term.holding

variable {p q : Plan} {index : Nat} {c : Course}

section Equal

variable (h : p.holdings = q.holdings)

include h

/-- A plan that holds the same has a term that holds what this one holds. -/
theorem exists_term_of_holdings_eq {t : Term} (ht : t ∈ p.terms) :
    ∃ u ∈ q.terms, u.holding = t.holding := by
  have hmem : t.holding ∈ q.holdings := h ▸ List.mem_map_of_mem ht
  exact List.mem_map.1 hmem

/-- What depends on the holdings of terms only is the same along both plans. -/
theorem map_terms_congr {β : Type} {f g : Term → β}
    (hfg : ∀ t u, t.holding = u.holding → f t = g u) : p.terms.map f = q.terms.map g :=
  map_congr_of_map_eq hfg h

theorem findSome?_terms_congr {β : Type} {f g : Term → Option β}
    (hfg : ∀ t u, t.holding = u.holding → f t = g u) :
    p.terms.findSome? f = q.terms.findSome? g := by
  have hmap := congrArg (List.findSome? id) (map_terms_congr h hfg)
  simpa only [List.findSome?_map, Function.id_comp] using hmap

end Equal

/-! ## Placing courses one after another -/

/-- Placing a course adds it to what its term holds. -/
theorem holdings_placing (p : Plan) (index : Nat) (c : Course) :
    (p.placing index c).holdings = p.holdings.map (Holding.addAt index c) := by
  simp only [holdings, terms_placing, List.map_map]
  apply List.map_congr_left
  intro t _
  show (if t.index = index then t.add c else t).holding = Holding.addAt index c t.holding
  rw [Holding.addAt, Term.index_holding]
  split
  · exact t.holding_add c
  · rfl

/-- The plan with the courses of a list placed one after another, each in the term with the index
that goes with it. -/
def placeAll (p : Plan) (steps : List (Nat × Course)) : Except PlanError Plan :=
  steps.foldlM (fun p step => p.place step.1 step.2) p

/-- The plan after a list of placements, where none of them is outside the plan. -/
def placingAll (p : Plan) (steps : List (Nat × Course)) : Plan :=
  steps.foldl (fun p step => p.placing step.1 step.2) p

/-- Placements none of which is outside the plan all succeed. -/
theorem placeAll_eq_ok {steps : List (Nat × Course)} (h : ∀ step ∈ steps, step.1 < termCount) :
    p.placeAll steps = .ok (p.placingAll steps) := by
  induction steps generalizing p with
  | nil => rfl
  | cons step steps ih =>
    obtain ⟨hstep, hsteps⟩ := List.forall_mem_cons.1 h
    rw [placeAll, List.foldlM_cons, place_eq_ok p step.2 hstep]
    exact ih hsteps

/-- What a plan holds after some placements can be told from what it held before. -/
theorem holdings_placingAll (p : Plan) (steps : List (Nat × Course)) :
    (p.placingAll steps).holdings =
      steps.foldl (fun hs step => hs.map (Holding.addAt step.1 step.2)) p.holdings := by
  induction steps generalizing p with
  | nil => rfl
  | cons step steps ih =>
    rw [List.foldl_cons, ← holdings_placing]
    exact ih (p.placing step.1 step.2)

/-- **The order of placements does not matter to what the plan holds.** -/
theorem holdings_placingAll_of_perm {steps steps' : List (Nat × Course)}
    (h : steps.Perm steps') :
    (p.placingAll steps).holdings = (p.placingAll steps').holdings := by
  rw [holdings_placingAll, holdings_placingAll]
  apply h.foldl_eq'
  intro step _ step' _ hs
  rw [List.map_map, List.map_map]
  apply List.map_congr_left
  intro held _
  exact Holding.addAt_comm _ _ _ _ held

end Plan

end CoursePlan
