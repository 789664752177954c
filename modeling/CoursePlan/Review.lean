import CoursePlan.Finding.Report
import CoursePlan.Plan.Basic
import CoursePlan.Requisite.Parse

/-!
# Reviewing a plan

A course in a term is checked against the rest of the plan, rule after rule:

* it should not be placed in another term as well (`duplicates`);
* its requirements should be met by the courses of earlier terms (`unmet`);
* nothing that its catalog entry excludes may be placed anywhere in the plan (`conflicts`);
* its term should not hold more courses than the threshold allows (`overloads`).

`Plan.reviewAddition` checks a course that is about to be placed, and `Plan.review` checks every
placed course as if it were being added in display order.
-/

namespace CoursePlan

namespace Course

/-- The requirements of a course that is said to have any. -/
def requirements (c : Course) : List Requirement :=
  if c.hasRequirements then (Requirements.parse c.requisites).items else []

end Course

namespace Plan

/-- The term other than the one with the given index in which the course is placed as well. -/
def otherTerm? (p : Plan) (index : Nat) (c : Course) : Option Term :=
  p.terms.find? (fun t => t.index ≠ index && t.placements.any (fun q => q.course.id = c.id))

/-- The finding about a course that another term holds as well. -/
def duplicates (p : Plan) (index : Nat) (c : Course) : List Finding :=
  match p.otherTerm? index c with
  | none => []
  | some t =>
    [.new .duplicate c.code ("Course already exists in " ++ t.label)
      "You may want to remove the duplicate course from one of the terms."]

/-- The finding about a requirement that is not met in the term with the given index.  Courses to
stay away from are looked for in the whole plan instead. -/
def unmetFinding? (index : Nat) (c : Course) (r : Requirement) : Option Finding :=
  match r.demand with
  | .courses _ _ =>
    some (.new .prerequisite c.code ("Missing prerequisite: " ++ r.describe)
      "You must complete the required courses in an earlier term.")
  | .level l _ =>
    some (.new .level c.code ("Level requirement: " ++ r.describe)
      ("This course requires " ++ l.label ++
        " or higher. You need faculty override to take it in " ++
        (Level.ofIndex index).label ++ "."))
  | .corequisite _ =>
    some (.new .corequisite c.code ("Corequisite: " ++ r.describe)
      "This course should be taken in the same term or after its corequisites.")
  | .antirequisite _ => none

/-- The findings about requirements that the earlier terms and the level of the term do not
meet. -/
def unmet (p : Plan) (index : Nat) (c : Course) : List Finding :=
  let completed := p.codesBefore index
  let current := Level.ofIndex index
  (c.requirements.filter (fun r => !r.isSatisfied completed (some current))).filterMap
    (unmetFinding? index c)

/-- The courses that a requirement excludes. -/
def excluded (r : Requirement) : List CourseCode :=
  match r.demand with
  | .antirequisite codes => codes
  | _ => []

/-- The finding about a placed course that must not be taken with another. -/
def conflictFinding (c : Course) (other : CourseCode) : Finding :=
  .new .antirequisite c.code ("Cannot take with " ++ other.text)
    (c.code.text ++ " and " ++ other.text ++
      " are antirequisites and cannot both be in your plan.")

/-- The findings about courses anywhere in the plan that the course excludes.  A course does not
exclude itself. -/
def conflicts (p : Plan) (c : Course) : List Finding :=
  let placed := p.allCodes
  ((c.requirements.flatMap excluded).filter
    (fun other => other ≠ c.code && decide (other ∈ placed))).map (conflictFinding c)

/-- The finding about a course that comes as the `count`-th into its term. -/
def overloads (threshold count : Nat) (c : Course) : List Finding :=
  if threshold < count then
    [.new .overload c.code ("Term overload: " ++ Numeral.text count ++ " courses")
      ("This term has more than " ++ Numeral.text threshold ++
        " courses. Consider redistributing courses to maintain balance.")]
  else []

/-- All findings about a course in the term with the given index, where `before` courses come
before it.  A term past the end of the plan has no load. -/
def check (p : Plan) (threshold index : Nat) (c : Course) (before : Option Nat) : List Finding :=
  p.duplicates index c ++ p.unmet index c ++ p.conflicts c ++
    match before with
    | some n => overloads threshold (n + 1) c
    | none => []

/-- The report on adding a course to the term with the given index. -/
def reviewAddition (p : Plan) (threshold index : Nat) (c : Course) : Report :=
  .ofFindings (p.check threshold index c ((p.term? index).map (·.placements.length)))

/-- The placements of a term in display order; those that share a position stay in the order in
which they were made. -/
def displayed (t : Term) : List Placement :=
  t.placements.mergeSort (fun a b => decide (a.position ≤ b.position))

/-- The findings about the courses of one term, each of which comes after those displayed before
it. -/
def checkTerm (p : Plan) (threshold : Nat) (t : Term) : List Finding :=
  (displayed t).zipIdx.flatMap fun (q, rank) => p.check threshold t.index q.course (some rank)

/-- The report on all courses of the plan, without repeats. -/
def review (p : Plan) (threshold : Nat) : Report :=
  (Report.ofFindings (p.terms.flatMap (p.checkTerm threshold))).dedup

end Plan

end CoursePlan
