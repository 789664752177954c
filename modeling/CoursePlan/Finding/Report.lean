import CoursePlan.Finding.Basic
import CoursePlan.Numeral
import CoursePlan.Text.Column

/-!
# Reports

A report holds findings in two lists: the errors, and everything else.  What it is about is valid
when there are no errors.
-/

namespace CoursePlan

/-- Findings, those that make a plan invalid apart from those that do not. -/
structure Report where
  errors : List Finding
  warnings : List Finding
deriving DecidableEq

namespace Report

/-- The report on a list of findings, in their order. -/
def ofFindings (fs : List Finding) : Report :=
  ⟨fs.filter Finding.isError, fs.filter (fun f => !f.isError)⟩

/-- Whether there are no errors. -/
def isValid (r : Report) : Bool :=
  r.errors.isEmpty

/-- All findings, errors first. -/
def findings (r : Report) : List Finding :=
  r.errors ++ r.warnings

/-- The findings of one kind, errors first. -/
def ofKind (r : Report) (kind : FindingKind) : List Finding :=
  r.findings.filter (·.kind = kind)

/-- The report without repeats in either list. -/
def dedup (r : Report) : Report :=
  ⟨Finding.dedup r.errors, Finding.dedup r.warnings⟩

/-! ## Reports as text -/

/-- One row of the table of findings. -/
def row (course kind text : String) : String :=
  "  " ++ Text.padRight 12 course ++ " " ++ Text.padRight 14 kind ++ " " ++ text ++ "\n"

/-- The rows of a finding: the message, and the details under it. -/
def findingRows (f : Finding) : String :=
  row f.code.text f.kind.name f.message ++
    match f.details with
    | some details => row "" "" details
    | none => ""

/-- The table of a list of findings under a title; no table if there are none. -/
def sectionText (title : String) (fs : List Finding) : String :=
  if fs.isEmpty then ""
  else title ++ " (" ++ Numeral.text fs.length ++ "):\n" ++ row "COURSE" "KIND" "MESSAGE" ++
    "  " ++ Text.rule 70 ++ "\n" ++ String.join (fs.map findingRows) ++ "\n"

/-- The report as text: a table of errors, a table of warnings, and the verdict. -/
def render (r : Report) : String :=
  sectionText "Errors" r.errors ++ sectionText "Warnings" r.warnings ++
    "Result: " ++ (if r.isValid then "valid" else "INVALID") ++
    " (" ++ Numeral.text r.errors.length ++ " errors, " ++
    Numeral.text r.warnings.length ++ " warnings)\n"

end Report

end CoursePlan
