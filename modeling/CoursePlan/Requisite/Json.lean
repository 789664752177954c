import CoursePlan.Json.Decode
import CoursePlan.Requisite.Parse

/-!
# Requirements in JSON

A requirement is an object whose member `kind` says what it demands and which other members it
has.  `Requirement.toJson` writes it and `Requirement.ofJson` reads it back; reading accepts codes
and labels in every spelling, so that reading and then writing brings them into normal form.
-/

namespace CoursePlan

/-- The operator that a word denotes. -/
def Operator.ofName? (s : String) : Option Operator :=
  [Operator.all, Operator.any].find? (·.name = s)

namespace Requirement

/-- Codes as an array of texts. -/
def codesJson (codes : List CourseCode) : Json :=
  .array (codes.map fun c => .string c.text)

/-- The members that say what is demanded. -/
def demandMembers : Demand → List (String × Json)
  | .courses op codes =>
    [("operator", .ofText? (op.map Operator.name)), ("courses", codesJson codes)]
  | .level l program => [("level", .string l.label), ("program", .ofText? program)]
  | .corequisite codes => [("courses", codesJson codes)]
  | .antirequisite codes => [("courses", codesJson codes)]

/-- The requirement as an object. -/
def toJson (r : Requirement) : Json :=
  .object (("kind", .string r.demand.kind) :: (demandMembers r.demand ++
    [("raw", .string r.raw), ("group_id", .natural r.group.toNat)]))

/-- The fields of a requirement of a kind, without the kind itself. -/
def fieldNames? (kind : String) : Option (List String) :=
  if kind = "course" then some ["operator", "courses", "raw", "group_id"]
  else if kind = "level" then some ["level", "program", "raw", "group_id"]
  else if kind = "corequisite" then some ["courses", "raw", "group_id"]
  else if kind = "antirequisite" then some ["courses", "raw", "group_id"]
  else none

/-- The kind and the fields of a requirement as they are written.  In an array the kind comes
first. -/
def record : Decoder (String × JsonRecord)
  | .object members =>
    match members.lookup "kind" with
    | some (.string kind) =>
      match fieldNames? kind with
      | some names => .ok (kind, .ofMembers ("kind" :: names) members)
      | none => .error .wrongShape
    | _ => .error .wrongShape
  | .array (.string kind :: items) =>
    match fieldNames? kind with
    | some names => .ok (kind, .ofItems names items)
    | none => .error .wrongShape
  | _ => .error .wrongShape

/-- What is wrong with the value of a field of a requirement of some kind. -/
def checkField (kind name : String) (j : Json) : Except DecodeError Unit :=
  let counts := ((fieldNames? kind).getD []).contains name
  if !counts then .ok ()
  else if name = "operator" then discard (Decoder.option (.looseWord Operator.ofName?) j)
  else if name = "courses" then discard (Decoder.list .code j)
  else if name = "level" then discard (Decoder.level j)
  else if name = "program" then discard (Decoder.option .text j)
  else if name = "raw" then discard (Decoder.text j)
  else discard (Decoder.word32 j)

/-- What a requirement of some kind demands. -/
def demandOf (kind : String) (r : JsonRecord) : Except DecodeError Demand :=
  if kind = "course" then do
    .ok (.courses (← r.optional "operator" (.looseWord Operator.ofName?))
      (← r.required "courses" (.list .code)))
  else if kind = "level" then do
    .ok (.level (← r.required "level" .level) (← r.optional "program" .text))
  else if kind = "corequisite" then do
    .ok (.corequisite (← r.required "courses" (.list .code)))
  else do
    .ok (.antirequisite (← r.required "courses" (.list .code)))

/-- The requirement that a value writes. -/
def ofJson : Decoder Requirement := fun j => do
  let (kind, r) ← record j
  r.visit (checkField kind)
  .ok ⟨← demandOf kind r, ← r.required "raw" .text, ← r.required "group_id" Decoder.word32⟩

end Requirement

namespace Requirements

/-- The requirements of a text as an object. -/
def toJson (r : Requirements) : Json :=
  .object [("predicates", .array (r.items.map Requirement.toJson)),
    ("has_requirements", .boolean r.hasRequirements), ("raw", .string r.raw)]

end Requirements

end CoursePlan
