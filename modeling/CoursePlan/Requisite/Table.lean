import CoursePlan.Requisite.Parse
import CoursePlan.Text.Column

/-!
# Requirements as text

A table with one row for each requirement: its number, its kind, and what it demands in words.
-/

namespace CoursePlan.Requirements

/-- One row of the table of requirements. -/
def row (group kind text : String) : String :=
  Text.padRight 6 group ++ " " ++ Text.padRight 14 kind ++ " " ++ text ++ "\n"

/-- The row of a requirement. -/
def requirementRow (r : Requirement) : String :=
  row (Numeral.text r.group.toNat) r.demand.kind r.describe

/-- The table of the requirements of a text, or a remark that there are none. -/
def render (r : Requirements) : String :=
  if r.items.isEmpty then "No requirements found.\n"
  else row "GROUP" "KIND" "REQUIREMENT" ++ Text.rule 60 ++ "\n" ++
    String.join (r.items.map requirementRow)

end CoursePlan.Requirements
