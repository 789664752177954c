import CoursePlan.PlanFile.Load
import CoursePlan.Review

/-!
# Adding a course of the catalog

Users ask whether a course of the catalog of a plan file can be added to one of its terms, naming
term and course in words of their own.  `Addition.review` loads the plan, finds out what they mean,
and reviews the addition.
-/

namespace CoursePlan

/-- Why an addition cannot be reviewed. -/
inductive AdditionError where
  | file (e : PlanFileError)
  | label (e : Level.ParseError)
  | outsidePlan (level : Level)
  | invalidCourseCode (written : String)
  | notListed (code : CourseCode)
deriving DecidableEq

/-- The error in words, followed by what caused it. -/
def AdditionError.chain : AdditionError → List String
  | file e => "failed to load plan" :: e.chain
  | label e => [e.message]
  | outsidePlan level => ["term " ++ level.label ++ " is outside the plan (1A through 4B)"]
  | invalidCourseCode written => ["invalid course code: " ++ Text.quoted written]
  | notListed code => ["course " ++ code.text ++ " is not listed in the plan's [[courses]]"]

/-- A report on a plan of some name. -/
structure NamedReport where
  plan : String
  report : Report
deriving DecidableEq

namespace Addition

/-- The term of a plan that a label denotes. -/
def term (label : String) : Except AdditionError Nat :=
  match Level.parse label with
  | .error e => .error (.label e)
  | .ok level =>
    if level.toNat < termCount then .ok level.toNat else .error (.outsidePlan level)

/-- The course of a catalog that a text denotes. -/
def course (catalog : Catalog) (written : String) : Except AdditionError Course :=
  match CourseCode.parse? written with
  | none => .error (.invalidCourseCode written)
  | some code =>
    match catalog.find? code with
    | none => .error (.notListed code)
    | some c => .ok c

/-- The report on adding a course of the catalog to a term of the plan in a plan file. -/
def review (threshold : Nat) (text label written : String) : Except AdditionError NamedReport := do
  let loaded ← (PlanFile.loadText 0 text).mapError .file
  let index ← term label
  let candidate ← course loaded.catalog written
  .ok ⟨loaded.plan.name, loaded.plan.reviewAddition threshold index candidate⟩

end Addition

end CoursePlan
