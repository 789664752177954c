import CoursePlan.CourseCode.Basic
import CoursePlan.Level

/-!
# Requirements

A requirement is one demand that the catalog makes of whoever takes a course: to have completed
some courses, to have reached a level, to take some courses along with it, or to stay away from
some.  It keeps the catalog's wording and its place among the requirements of the same text.

`Requirement.isSatisfied` decides a requirement against a record of completed courses and the
current level, and `Requirement.describe` says it in words.
-/

namespace CoursePlan

/-- How the courses of a list combine. -/
inductive Operator where
  | all
  | any
deriving DecidableEq, Repr

/-- The word for an operator. -/
def Operator.name : Operator → String
  | all => "all"
  | any => "any"

/-- What a requirement asks for. -/
inductive Demand where
  /-- Completed courses: one of them, or all; without an operator, all. -/
  | courses (operator : Option Operator) (codes : List CourseCode)
  /-- A level to have reached, perhaps in a named program. -/
  | level (level : Level) (program : Option String)
  /-- Courses of which one has to be taken along. -/
  | corequisite (codes : List CourseCode)
  /-- Courses that must not be taken. -/
  | antirequisite (codes : List CourseCode)
deriving DecidableEq

namespace Demand

/-- The word for the kind of demand. -/
def kind : Demand → String
  | courses _ _ => "course"
  | level _ _ => "level"
  | corequisite _ => "corequisite"
  | antirequisite _ => "antirequisite"

/-- The courses that a demand names. -/
def codes : Demand → List CourseCode
  | courses _ cs => cs
  | level _ _ => []
  | corequisite cs => cs
  | antirequisite cs => cs

/-- The operator of a demand for completed courses. -/
def operator : Demand → Option Operator
  | courses op _ => op
  | _ => none

/-- Whether the demand is met by somebody who has completed the courses `completed` and is at the
level `current`, if that is known.  An empty list demands nothing. -/
def isSatisfied (completed : List CourseCode) (current : Option Level) : Demand → Bool
  | courses (some .any) cs => cs.isEmpty || cs.any (fun c => decide (c ∈ completed))
  | courses _ cs => cs.all (fun c => decide (c ∈ completed))
  | level l _ => current.any (fun c => decide (l.toNat ≤ c.toNat))
  | corequisite cs => cs.isEmpty || cs.any (fun c => decide (c ∈ completed))
  | antirequisite cs => !cs.any (fun c => decide (c ∈ completed))

end Demand

/-- A demand, the words it was made in, and its number among those of the same text. -/
structure Requirement where
  demand : Demand
  raw : String
  group : UInt32
deriving DecidableEq

namespace Requirement

/-- The codes of a list with commas between them. -/
def codeList (codes : List CourseCode) : String :=
  ", ".intercalate (codes.map CourseCode.text)

/-- The codes of a list, or the wording of the catalog where the list is empty. -/
def codesOr (raw : String) (codes : List CourseCode) : String :=
  if codes.isEmpty then raw else codeList codes

/-- Whether the requirement is met. -/
def isSatisfied (completed : List CourseCode) (current : Option Level) (r : Requirement) : Bool :=
  r.demand.isSatisfied completed current

/-- The requirement in words. -/
def describe (r : Requirement) : String :=
  match r.demand with
  | .courses op codes =>
    if codes.isEmpty then r.raw
    else match op with
      | some .any => "One of: " ++ codeList codes
      | some .all => "All of: " ++ codeList codes
      | none => codeList codes
  | .level l program =>
    "Level " ++ l.label ++ " or higher" ++
      match program with
      | some p => " in " ++ p
      | none => ""
  | .corequisite codes => "Corequisite: " ++ codesOr r.raw codes
  | .antirequisite codes => "Cannot take with: " ++ codesOr r.raw codes

end Requirement

end CoursePlan
