import CoursePlan.Json.Decode
import CoursePlan.Plan.Basic
import CoursePlan.Plan.Uuid

/-!
# Terms in JSON

Reading a term with its placements and their courses from the objects that write them.  Ids are
written in any of their forms.
-/

namespace CoursePlan

namespace Course

/-- The fields of a course, in the order of one written as an array. -/
def fieldNames : List String :=
  ["id", "code", "title", "requisites", "has_requirements", "units"]

/-- The id that a value spells. -/
def idOfJson : Decoder CourseId
  | .string s =>
    match Uuid.parse? s with
    | some id => .ok (.assigned id)
    | none => .error .wrongShape
  | _ => .error .wrongShape

/-- What is wrong with the value of a field. -/
def checkField (name : String) (j : Json) : Except DecodeError Unit :=
  if name = "id" then discard (idOfJson j)
  else if name = "code" then discard (Decoder.code j)
  else if name = "title" then discard (Decoder.option .text j)
  else if name = "requisites" then discard (Decoder.option .text j)
  else if name = "has_requirements" then discard (Decoder.boolean j)
  else if name = "units" then discard (Decoder.option .single j)
  else .ok ()

/-- The course that a value writes. -/
def ofJson : Decoder Course := fun j => do
  let r ← JsonRecord.ofJson fieldNames j
  r.visit checkField
  .ok
    { id := ← r.required "id" idOfJson
      code := ← r.required "code" .code
      title := ← r.optional "title" .text
      requisites := ← r.optional "requisites" .text
      hasRequirements := ← r.required "has_requirements" .boolean
      units := ← r.optional "units" .single }

end Course

namespace Placement

/-- The fields of a placement, in the order of one written as an array. -/
def fieldNames : List String := ["course", "position"]

/-- What is wrong with the value of a field. -/
def checkField (name : String) (j : Json) : Except DecodeError Unit :=
  if name = "course" then discard (Course.ofJson j)
  else if name = "position" then discard (Decoder.word32 j)
  else .ok ()

/-- The placement that a value writes. -/
def ofJson : Decoder Placement := fun j => do
  let r ← JsonRecord.ofJson fieldNames j
  r.visit checkField
  .ok ⟨← r.required "course" Course.ofJson, ← r.required "position" Decoder.word32⟩

end Placement

namespace Term

/-- The fields of a term, in the order of one written as an array. -/
def fieldNames : List String := ["index", "label", "courses"]

/-- What is wrong with the value of a field. -/
def checkField (name : String) (j : Json) : Except DecodeError Unit :=
  if name = "index" then discard (Decoder.natural Numeral.max64 j)
  else if name = "label" then discard (Decoder.text j)
  else if name = "courses" then discard (Decoder.list Placement.ofJson j)
  else .ok ()

/-- The term that a value writes. -/
def ofJson : Decoder Term := fun j => do
  let r ← JsonRecord.ofJson fieldNames j
  r.visit checkField
  .ok ⟨← r.required "index" (.natural Numeral.max64), ← r.required "label" .text,
    ← r.required "courses" (.list Placement.ofJson)⟩

end Term

end CoursePlan
