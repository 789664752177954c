import CoursePlan.CourseCode.Basic
import CoursePlan.Number.Binary
import CoursePlan.Text.Blank

/-!
# Courses

A course as the catalog describes it.  Two entries are the same course when they have the same id,
whatever their codes; ids are given by the catalog, or drawn fresh where it gives none.
-/

namespace CoursePlan

/-- The identity of a course. -/
inductive CourseId where
  /-- An id of 128 bits that the catalog gives. -/
  | assigned (value : BitVec 128)
  /-- An id that was drawn for a course without one; it differs from every assigned id and from
  the ids drawn under other numbers. -/
  | drawn (serial : Nat)
deriving DecidableEq

/-- A course of the catalog. -/
structure Course where
  id : CourseId
  code : CourseCode
  title : Option String
  /-- The requisite text of the catalog. -/
  requisites : Option String
  /-- Whether the catalog says that the course has requisites.  They count only if it does. -/
  hasRequirements : Bool
  units : Option Single
deriving DecidableEq

namespace Course

/-- A course of which only id and code are known. -/
def new (id : CourseId) (code : CourseCode) : Course :=
  ⟨id, code, none, none, false, none⟩

/-- The course under another id. -/
def withId (c : Course) (id : CourseId) : Course :=
  { c with id := id }

/-- The course with a title. -/
def withTitle (c : Course) (title : String) : Course :=
  { c with title := some title }

/-- The course with a requisite text; it then has requisites if the text shows anything. -/
def withRequisites (c : Course) (text : String) : Course :=
  { c with requisites := some text, hasRequirements := !Text.isBlankText text.toList }

/-- The course, said to have requisites or not, whatever its text. -/
def withRequirementsFlag (c : Course) (flag : Bool) : Course :=
  { c with hasRequirements := flag }

/-- The course with a weight in units. -/
def withUnits (c : Course) (units : Single) : Course :=
  { c with units := some units }

end Course

end CoursePlan
