import CoursePlan.Plan.Basic
import CoursePlan.PlanFile.Basic
import CoursePlan.Toml.Document

/-!
# Loading plans

Loading a plan file makes a catalog of its entries and places courses of the catalog in the terms,
in the order of the file.  Everything that a file says is checked on the way: codes and labels have
to be such, entries and terms must not repeat each other, and terms hold courses of the catalog
only.  The first fault in the file is reported, all entries coming before all terms.
-/

namespace CoursePlan

/-- Why a plan file is refused. -/
inductive PlanFileError where
  /-- The text is not a TOML document, or does not have the form of a plan file. -/
  | malformed
  | invalidCourseCode (written : String)
  | duplicateCourse (code : CourseCode)
  | invalidTermLabel (written : String)
  | duplicateTerm (written : String)
  | unknownCourse (label written : String)
deriving DecidableEq

namespace PlanFileError

/-- The error in words. -/
def message : PlanFileError → String
  | malformed => "TOML parse error"
  | invalidCourseCode written => "invalid course code " ++ Text.quoted written
  | duplicateCourse code => "duplicate catalog course: " ++ code.text
  | invalidTermLabel written =>
    "invalid term label " ++ Text.quoted written ++ " (expected 1A through 4B)"
  | duplicateTerm written => "term " ++ written ++ " is listed more than once"
  | unknownCourse label written =>
    "term " ++ label ++ " places " ++ Text.quoted written ++ ", which is not in [[courses]]"

/-- The error in words, followed by what caused it. -/
def chain : PlanFileError → List String
  | malformed => [malformed.message, "the text is no plan file"]
  | e => [e.message]

end PlanFileError

/-- The courses of a plan file, in file order. -/
abbrev Catalog := List Course

/-- The course of a catalog with a given code. -/
def Catalog.find? (catalog : Catalog) (code : CourseCode) : Option Course :=
  List.find? (fun c => c.code = code) catalog

/-- What loading a plan file yields. -/
structure LoadedPlan where
  plan : Plan
  catalog : Catalog

namespace CatalogEntry

/-- The course that an entry describes, given its code and the id it gets if it has none.  The flag
of the entry counts for more than its text. -/
def toCourse (e : CatalogEntry) (code : CourseCode) (fresh : CourseId) : Course :=
  let c := Course.new ((e.id.map .assigned).getD fresh) code
  let c := (e.title.map c.withTitle).getD c
  let c := (e.requisites.map c.withRequisites).getD c
  let c := (e.hasRequirements.map c.withRequirementsFlag).getD c
  (e.units.map c.withUnits).getD c

end CatalogEntry

namespace PlanFile

/-- The catalog with one more entry; `serial` numbers the id that is drawn if the entry has none. -/
def addEntry (catalog : Catalog) (e : CatalogEntry) (serial : Nat) :
    Except PlanFileError Catalog :=
  match CourseCode.parse? e.code with
  | none => .error (.invalidCourseCode e.code)
  | some code =>
    match catalog.find? code with
    | some _ => .error (.duplicateCourse code)
    | none => .ok (catalog ++ [e.toCourse code (.drawn serial)])

/-- The catalog of a list of entries.  Drawn ids are numbered from `serial` on. -/
def makeCatalog (serial : Nat) (entries : List CatalogEntry) : Except PlanFileError Catalog :=
  (entries.zipIdx serial).foldlM (fun catalog (e, n) => addEntry catalog e n) []

/-- The index of the term that a label denotes. -/
def termIndex? (label : String) : Option Nat := do
  let level ← Level.ofChars? label.toList
  if level.toNat < termCount then some level.toNat else none

/-- Place a course of the catalog in a term. -/
def placeCode (catalog : Catalog) (label : String) (index : Nat) (plan : Plan)
    (written : String) : Except PlanFileError Plan :=
  match (CourseCode.parse? written).bind catalog.find? with
  | none => .error (.unknownCourse label written)
  | some course =>
    match plan.place index course with
    | .ok plan => .ok plan
    | .error _ => .error (.invalidTermLabel label)

/-- Place the courses of one term.  `seen` are the terms that came before. -/
def placeSection (catalog : Catalog) (state : Plan × List Nat) (s : TermSection) :
    Except PlanFileError (Plan × List Nat) :=
  let (plan, seen) := state
  match termIndex? s.label with
  | none => .error (.invalidTermLabel s.label)
  | some index =>
    if index ∈ seen then .error (.duplicateTerm s.label)
    else do
      let plan ← s.codes.foldlM (placeCode catalog s.label index) plan
      .ok (plan, index :: seen)

/-- The plan and the catalog of a plan file.  Drawn ids are numbered from `serial` on. -/
def load (serial : Nat) (f : PlanFile) : Except PlanFileError LoadedPlan := do
  let catalog ← makeCatalog serial f.catalog
  let (plan, _) ← f.sections.foldlM (placeSection catalog) (Plan.new f.name, [])
  .ok ⟨plan, catalog⟩

/-- The plan file that a text says. -/
def read? (text : String) : Option PlanFile :=
  (Toml.read? text).bind ofTable?

/-- The plan and the catalog of a plan file given as text. -/
def loadText (serial : Nat) (text : String) : Except PlanFileError LoadedPlan :=
  match read? text with
  | some f => f.load serial
  | none => .error .malformed

end PlanFile

end CoursePlan
