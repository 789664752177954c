import CoursePlan.CourseCode.Basic
import CoursePlan.Distinct
import CoursePlan.Text.Quoted

/-!
# Findings

A finding is one thing that is wrong, or may be, with a course in a plan.  Its kind says which rule
it comes from, its severity whether it makes the plan invalid.  Two findings are repeats of each
other when they agree on course, kind and message.
-/

namespace CoursePlan

/-- How much a finding matters. -/
inductive Severity where
  /-- The plan is invalid. -/
  | error
  | warning
  | info
deriving DecidableEq, Repr

namespace Severity

/-- The word for a severity. -/
def name : Severity → String
  | error => "error"
  | warning => "warning"
  | info => "info"

/-- All severities. -/
def all : List Severity := [error, warning, info]

/-- The severity that a word denotes. -/
def ofName? (s : String) : Option Severity :=
  all.find? (·.name = s)

/-- What is said about a word that denotes no severity. -/
def unknownMessage (s : String) : String :=
  "invalid severity: " ++ Text.quoted s

end Severity

/-- The rule that a finding comes from. -/
inductive FindingKind where
  | prerequisite
  | antirequisite
  | corequisite
  | level
  | duplicate
  | overload
deriving DecidableEq, Repr

namespace FindingKind

/-- The word for a kind. -/
def name : FindingKind → String
  | prerequisite => "prerequisite"
  | antirequisite => "antirequisite"
  | corequisite => "corequisite"
  | level => "level"
  | duplicate => "duplicate"
  | overload => "overload"

/-- All kinds. -/
def all : List FindingKind :=
  [prerequisite, antirequisite, corequisite, level, duplicate, overload]

/-- The kind that a word denotes. -/
def ofName? (s : String) : Option FindingKind :=
  all.find? (·.name = s)

/-- What is said about a word that denotes no kind. -/
def unknownMessage (s : String) : String :=
  "invalid diagnostic kind: " ++ Text.quoted s

/-- Missing prerequisites and conflicts make a plan invalid; the rest is advice. -/
def severity : FindingKind → Severity
  | prerequisite => .error
  | antirequisite => .error
  | _ => .warning

end FindingKind

/-- One thing that is wrong with a course in a plan. -/
structure Finding where
  kind : FindingKind
  severity : Severity
  /-- The course that the finding is about. -/
  code : CourseCode
  /-- What is wrong, in one line. -/
  message : String
  /-- What can be done about it. -/
  details : Option String
deriving DecidableEq

namespace Finding

/-- The finding of a kind, with the severity of its kind. -/
def new (kind : FindingKind) (code : CourseCode) (message details : String) : Finding :=
  ⟨kind, kind.severity, code, message, some details⟩

/-- What tells findings apart. -/
def key (f : Finding) : CourseCode × FindingKind × String :=
  (f.code, f.kind, f.message)

/-- Whether the finding makes a plan invalid. -/
def isError (f : Finding) : Bool :=
  f.severity = .error

/-- The finding on one line. -/
def line (f : Finding) : String :=
  f.severity.name ++ " [" ++ f.kind.name ++ "] " ++ f.code.text ++ ": " ++ f.message

/-- The findings of a list without repeats, the first of each kept. -/
def dedup (fs : List Finding) : List Finding :=
  firstBy key fs

end Finding

end CoursePlan
