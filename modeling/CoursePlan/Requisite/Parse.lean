import CoursePlan.Requisite.Clause
import CoursePlan.Text.Pieces

/-!
# Requisite texts

A requisite text is a sequence of clauses that end at periods and semicolons.  `Requirements.parse`
reads each clause by itself, leaves out those that demand nothing, and numbers the others from 0.
Reading never fails: a text that cannot be understood has no requirements.
-/

namespace CoursePlan

/-- The requirements of a text, with the text itself. -/
structure Requirements where
  items : List Requirement
  raw : String
deriving DecidableEq

namespace Requirements

/-- Clauses end at periods and semicolons. -/
def endsClause (c : Char) : Bool :=
  c == '.' || c == ';'

/-- The clauses of a text, without blanks around them and without empty ones. -/
def clauses (cs : List Char) : List (List Char) :=
  ((Text.pieces endsClause cs).map Text.trim).filter (fun clause => !clause.isEmpty)

/-- The clauses of a text that demand something, with what they demand. -/
def demands (cs : List Char) : List (List Char × Demand) :=
  (clauses cs).filterMap (fun clause => (Clause.demand? clause).map (clause, ·))

/-- The requirements of a text in the order of its clauses, numbered from 0. -/
def ofChars (cs : List Char) : List Requirement :=
  (demands cs).zipIdx.map (fun ((clause, demand), i) =>
    ⟨demand, String.ofList clause, UInt32.ofNat i⟩)

/-- The requirements of a text.  An absent text is read as an empty one. -/
def parse (text : Option String) : Requirements :=
  let cs := Text.trim (text.getD "").toList
  ⟨ofChars cs, String.ofList cs⟩

/-- Whether there is any requirement. -/
def hasRequirements (r : Requirements) : Bool :=
  !r.items.isEmpty

end Requirements

end CoursePlan
