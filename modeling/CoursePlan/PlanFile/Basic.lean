import CoursePlan.Plan.Uuid
import CoursePlan.Toml.Value

/-!
# Plan files

A plan file is a TOML document with a table `[plan]`, the catalog entries of the courses in it
(`[[courses]]`), and for each term the codes of the courses placed there (`[[terms]]`).

A `PlanFile` holds what such a document says, with codes and labels as they are written.
`PlanFile.ofTable?` takes it out of the table that a document defines, and `PlanFile.toTable` puts
it back; of these two, the second followed by the first changes no file in which all units are
numbers.
-/

namespace CoursePlan

/-- A catalog entry as it is written. -/
structure CatalogEntry where
  code : String
  id : Option (BitVec 128)
  title : Option String
  requisites : Option String
  hasRequirements : Option Bool
  units : Option Single
deriving DecidableEq

/-- A term as it is written: its label and the codes placed in it. -/
structure TermSection where
  label : String
  codes : List String
deriving DecidableEq

/-- A plan file as it is written. -/
structure PlanFile where
  name : String
  program : Option String
  catalog : List CatalogEntry
  sections : List TermSection
deriving DecidableEq

open Toml (Value Table)

namespace CatalogEntry

/-- The fields of an entry, in the order of an entry written as an array. -/
def fieldNames : List String :=
  ["code", "id", "title", "requisites", "has_requirements", "units"]

/-- The id that a value spells, as a string or as an array that begins with its bytes. -/
def id? : Value → Option (BitVec 128)
  | .string s => Uuid.parse? s
  | .array items => do Uuid.ofBytes? (← (items.take Uuid.byteCount).mapM Value.natural?)
  | _ => none

/-- The entry that a value describes. -/
def ofValue? (v : Value) : Option CatalogEntry := do
  let fields ← v.fields? fieldNames
  some
    { code := ← Table.required? fields "code" Value.string?
      id := ← Table.optional? fields "id" id?
      title := ← Table.optional? fields "title" Value.string?
      requisites := ← Table.optional? fields "requisites" Value.string?
      hasRequirements := ← Table.optional? fields "has_requirements" Value.boolean?
      units := ← Table.optional? fields "units" Value.single? }

/-- The entry as a table; what it lacks is left out. -/
def toValue (e : CatalogEntry) : Value :=
  .table (("code", .string e.code) ::
    ((e.id.map fun id => ("id", Value.string (Uuid.text id))).toList ++
      (e.title.map fun t => ("title", Value.string t)).toList ++
      (e.requisites.map fun t => ("requisites", Value.string t)).toList ++
      (e.hasRequirements.map fun b => ("has_requirements", Value.boolean b)).toList ++
      (e.units.map fun u => ("units", Value.float (u.convert .double))).toList))

/-- Whether two entries say the same, units being compared as numbers. -/
def same (e f : CatalogEntry) : Bool :=
  { e with units := none } == { f with units := none } &&
    match e.units, f.units with
    | some u, some v => u.sameValue v
    | none, none => true
    | _, _ => false

end CatalogEntry

namespace TermSection

/-- The fields of a term, in the order of a term written as an array. -/
def fieldNames : List String := ["label", "courses"]

/-- The term that a value describes. -/
def ofValue? (v : Value) : Option TermSection := do
  let fields ← v.fields? fieldNames
  some
    { label := ← Table.required? fields "label" Value.string?
      codes := ← Table.list? fields "courses" Value.string? }

/-- The term as a table. -/
def toValue (s : TermSection) : Value :=
  .table [("label", .string s.label), ("courses", .array (s.codes.map .string))]

end TermSection

namespace PlanFile

/-- The fields of the table `[plan]`, in the order of one written as an array. -/
def headingNames : List String := ["name", "program"]

/-- The name of the plan and its program. -/
def heading? (v : Value) : Option (String × Option String) := do
  let fields ← v.fields? headingNames
  some (← Table.required? fields "name" Value.string?,
    ← Table.optional? fields "program" Value.string?)

/-- The plan file that a document says. -/
def ofTable? (fields : Table) : Option PlanFile := do
  let (name, program) ← Table.required? fields "plan" heading?
  some
    { name := name
      program := program
      catalog := ← Table.list? fields "courses" CatalogEntry.ofValue?
      sections := ← Table.list? fields "terms" TermSection.ofValue? }

/-- The table of a document that says the plan file. -/
def toTable (f : PlanFile) : Table :=
  [("plan", .table (("name", .string f.name) ::
      (f.program.map fun p => ("program", Value.string p)).toList)),
    ("courses", .array (f.catalog.map CatalogEntry.toValue)),
    ("terms", .array (f.sections.map TermSection.toValue))]

/-- Whether two lists agree entry by entry. -/
def sameCatalog : List CatalogEntry → List CatalogEntry → Bool
  | [], [] => true
  | e :: es, f :: fs => e.same f && sameCatalog es fs
  | _, _ => false

/-- Whether two plan files say the same, units being compared as numbers. -/
def same (f g : PlanFile) : Bool :=
  f.name == g.name && f.program == g.program && sameCatalog f.catalog g.catalog &&
    f.sections == g.sections

/-- Whether a plan file can be written and read back; units that are not a number cannot. -/
def survivesWriting (f : PlanFile) : Bool :=
  (ofTable? f.toTable).any f.same

end PlanFile

end CoursePlan
