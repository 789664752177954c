import CoursePlan.Numeral
import CoursePlan.Text.Blank
import CoursePlan.Text.Quoted

/-!
# The overload threshold

A term that holds more courses than the threshold is overloaded.  Users set the threshold to a
whole number from 1 on.
-/

namespace CoursePlan

/-- Why a threshold cannot be used. -/
inductive ThresholdError where
  | zero
  /-- The environment variable holds something else than a whole number of at most 64 bits. -/
  | notANumber (value : String)
deriving DecidableEq, Repr

namespace Threshold

/-- The threshold where nothing else is set: five or six courses are a full load. -/
def default : Nat := 6

/-- The environment variable that sets the threshold. -/
def variableName : String := "TERMPLAN_MAX_COURSES_PER_TERM"

/-- A threshold other than zero. -/
def positive (n : Nat) : Except ThresholdError Nat :=
  if n = 0 then .error .zero else .ok n

/-- The threshold that the environment variable sets, if it is there. -/
def ofVariable : Option String → Except ThresholdError (Option Nat)
  | none => .ok none
  | some value =>
    match Numeral.word64? (Text.trim value.toList) with
    | none => .error (.notANumber value)
    | some n => (positive n).map some

end Threshold

/-- The error in words. -/
def ThresholdError.message : ThresholdError → String
  | zero => "max_courses_per_term must be at least 1"
  | notANumber value =>
    Threshold.variableName ++ " env var is not a whole number: " ++ Text.quoted value

end CoursePlan
