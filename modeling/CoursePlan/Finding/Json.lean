import CoursePlan.Finding.Report
import CoursePlan.Json.Decode

/-!
# Findings in JSON

Findings and reports as objects, and findings read back from them.  The severity of a finding that
is read is the one that is written, whatever its kind.
-/

namespace CoursePlan

namespace Finding

/-- The finding as an object. -/
def toJson (f : Finding) : Json :=
  .object [("kind", .string f.kind.name), ("severity", .string f.severity.name),
    ("course_code", .string f.code.text), ("message", .string f.message),
    ("details", .ofText? f.details)]

/-- The fields of a finding, in the order of one written as an array. -/
def fieldNames : List String := ["kind", "severity", "course_code", "message", "details"]

/-- What is wrong with the value of a field. -/
def checkField (name : String) (j : Json) : Except DecodeError Unit :=
  if name = "kind" then discard (Decoder.word FindingKind.ofName? j)
  else if name = "severity" then discard (Decoder.word Severity.ofName? j)
  else if name = "course_code" then discard (Decoder.code j)
  else if name = "message" then discard (Decoder.text j)
  else if name = "details" then discard (Decoder.option .text j)
  else .ok ()

/-- The finding that a value writes. -/
def ofJson : Decoder Finding := fun j => do
  let r ← JsonRecord.ofJson fieldNames j
  r.visit checkField
  .ok
    { kind := ← r.required "kind" (.word FindingKind.ofName?)
      severity := ← r.required "severity" (.word Severity.ofName?)
      code := ← r.required "course_code" .code
      message := ← r.required "message" .text
      details := ← r.optional "details" .text }

end Finding

namespace Report

/-- Findings as an array. -/
def findingsJson (fs : List Finding) : Json :=
  .array (fs.map Finding.toJson)

/-- The members of an object that says the report. -/
def members (r : Report) : List (String × Json) :=
  [("is_valid", .boolean r.isValid), ("warnings", findingsJson r.warnings),
    ("errors", findingsJson r.errors)]

end Report

end CoursePlan
