/-!
# Columns

Reports are tables of text: a cell is filled up with spaces to the width of its column, and a text
wider than its column is written in full.  Width counts characters.
-/

namespace CoursePlan.Text

/-- `s`, followed by the spaces that it is short of `width` characters. -/
def padRight (width : Nat) (s : String) : String :=
  s ++ String.ofList (List.replicate (width - s.length) ' ')

/-- A rule of `width` hyphens. -/
def rule (width : Nat) : String :=
  String.ofList (List.replicate width '-')

end CoursePlan.Text
