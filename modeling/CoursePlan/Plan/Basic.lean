import CoursePlan.Level
import CoursePlan.Plan.Course

/-!
# Plans

A plan places courses in the eight terms `1A` to `4B` of a program.  In each term the placements
are a list in the order in which they were made, each with a display position; a new placement goes
to the end and behind all positions of its term.

That a plan has eight terms, numbered in order, is part of its type.
-/

namespace CoursePlan

/-- A course in a term, with its place in the display. -/
structure Placement where
  course : Course
  position : UInt32
deriving DecidableEq

/-- A term of a plan. -/
structure Term where
  /-- Where the term comes in the program, counted from 0. -/
  index : Nat
  label : String
  placements : List Placement
deriving DecidableEq

namespace Term

/-- The empty term with a given index, under its usual label. -/
def empty (index : Nat) : Term :=
  ⟨index, (Level.ofIndex index).label, []⟩

/-- The codes of the courses in a term, in order. -/
def codes (t : Term) : List CourseCode :=
  t.placements.map (fun p => p.course.code)

/-- The first position behind all those of a term. -/
def nextPosition (t : Term) : UInt32 :=
  t.placements.foldr (fun p next => max (p.position + 1) next) 0

/-- The term with one more course, placed last. -/
def add (t : Term) (c : Course) : Term :=
  { t with placements := t.placements ++ [⟨c, t.nextPosition⟩] }

@[simp] theorem index_add (t : Term) (c : Course) : (t.add c).index = t.index := rfl

@[simp] theorem codes_add (t : Term) (c : Course) : (t.add c).codes = t.codes ++ [c.code] := by
  simp [codes, add]

/-- The earliest placement of a code in a term. -/
def find? (t : Term) (code : CourseCode) : Option Placement :=
  t.placements.find? (fun p => p.course.code = code)

/-- The term without its earliest placement of a code. -/
def remove (t : Term) (code : CourseCode) : Term :=
  { t with placements := t.placements.eraseP (fun p => p.course.code = code) }

end Term

/-- The number of terms in a plan. -/
def termCount : Nat := 8

/-- A plan: a name, and eight terms in order. -/
structure Plan where
  name : String
  terms : List Term
  ordered : terms.map Term.index = List.range termCount
deriving DecidableEq

/-- Why a plan cannot be made or changed. -/
inductive PlanError where
  | wrongTermCount (found : Nat)
  | termOutOfOrder (position index : Nat)
  | noSuchTerm (index : Nat)
  | notPlaced (code : CourseCode) (label : String)
deriving DecidableEq

/-- The error in words. -/
def PlanError.message : PlanError → String
  | wrongTermCount found =>
    "a plan must have exactly " ++ Numeral.text termCount ++ " terms, got " ++ Numeral.text found
  | termOutOfOrder position index =>
    "term at position " ++ Numeral.text position ++ " has index " ++ Numeral.text index
  | noSuchTerm index => "term index " ++ Numeral.text index ++ " is outside the plan"
  | notPlaced code label => code.text ++ " is not placed in term " ++ label

namespace Plan

@[simp] theorem length_terms (p : Plan) : p.terms.length = termCount := by
  have h := congrArg List.length p.ordered
  simpa using h

/-- The terms of a plan are numbered by their places. -/
theorem index_getElem (p : Plan) (i : Nat) (hi : i < p.terms.length) : p.terms[i].index = i := by
  have h := congrArg (fun l : List Nat => l[i]?) p.ordered
  rw [length_terms] at hi
  simpa [hi] using h

/-- The plan with eight empty terms. -/
def new (name : String) : Plan where
  name := name
  terms := (List.range termCount).map Term.empty
  ordered := by simp [Function.comp_def, Term.empty]

/-- The first term whose index is not its place in the list, with that place. -/
def firstMisplaced? (terms : List Term) : Option (Nat × Nat) :=
  terms.zipIdx.findSome? fun (t, position) =>
    if t.index = position then none else some (position, t.index)

theorem index_eq_of_firstMisplaced?_eq_none {terms : List Term} (h : firstMisplaced? terms = none)
    (i : Nat) (hi : i < terms.length) : terms[i].index = i := by
  have hmem : (terms[i], i) ∈ terms.zipIdx := by
    rw [List.mem_zipIdx_iff_getElem?]
    exact List.getElem?_eq_getElem hi
  have hnone := List.findSome?_eq_none_iff.1 h _ hmem
  by_cases hij : terms[i].index = i
  · exact hij
  · simp [hij] at hnone

/-- Eight terms of which none is misplaced are numbered in order. -/
theorem ordered_of_firstMisplaced?_eq_none {terms : List Term} (hl : terms.length = termCount)
    (h : firstMisplaced? terms = none) : terms.map Term.index = List.range termCount := by
  apply List.ext_getElem
  · simp [hl]
  · intro i h₁ h₂
    rw [List.getElem_map, List.getElem_range]
    exact index_eq_of_firstMisplaced?_eq_none h i (by simpa using h₁)

/-- The plan with the given terms, which have to be eight and numbered in order. -/
def ofTerms (name : String) (terms : List Term) : Except PlanError Plan :=
  if hl : terms.length = termCount then
    match h : firstMisplaced? terms with
    | some (position, index) => .error (.termOutOfOrder position index)
    | none => .ok ⟨name, terms, ordered_of_firstMisplaced?_eq_none hl h⟩
  else .error (.wrongTermCount terms.length)

/-- The term with a given index. -/
def term? (p : Plan) (index : Nat) : Option Term :=
  p.terms[index]?

/-- The plan with the term at `index` changed in its placements only. -/
def modifyTerm (p : Plan) (index : Nat) (change : Term → Term)
    (keeps : ∀ t, (change t).index = t.index) : Plan where
  name := p.name
  terms := p.terms.map (fun t => if t.index = index then change t else t)
  ordered := by
    rw [← p.ordered, List.map_map]
    apply List.map_congr_left
    intro t _
    simp only [Function.comp_apply]
    split
    · exact keeps t
    · rfl

/-- The plan with one more course in a term. -/
def place (p : Plan) (index : Nat) (c : Course) : Except PlanError Plan :=
  match p.term? index with
  | none => .error (.noSuchTerm index)
  | some _ => .ok (p.modifyTerm index (·.add c) (fun _ => rfl))

/-- The earliest placed course with a code in a term, and the plan without it. -/
def remove (p : Plan) (index : Nat) (code : CourseCode) : Except PlanError (Course × Plan) :=
  match p.term? index with
  | none => .error (.noSuchTerm index)
  | some t =>
    match t.find? code with
    | none => .error (.notPlaced code t.label)
    | some found => .ok (found.course, p.modifyTerm index (·.remove code) (fun _ => rfl))

/-- The codes placed in the terms before the one with a given index. -/
def codesBefore (p : Plan) (index : Nat) : List CourseCode :=
  (p.terms.filter (fun t => t.index < index)).flatMap Term.codes

/-- The codes placed anywhere in the plan. -/
def allCodes (p : Plan) : List CourseCode :=
  p.terms.flatMap Term.codes

/-- How many placements the plan has. -/
def courseCount (p : Plan) : Nat :=
  (p.terms.flatMap Term.placements).length

end Plan

end CoursePlan
