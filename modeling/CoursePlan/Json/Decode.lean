import CoursePlan.CourseCode.Basic
import CoursePlan.Json.Value
import CoursePlan.Level

/-!
# Taking JSON values apart

A decoder turns a JSON value into a value of the library or says what is wrong.  Course codes and
term labels are read by their own rules, and the text of one that is none is kept as the cause of
failure; anything else that does not fit is a wrong shape.

A *record* is written as an object or as an array of its fields in their declared order.  An object
may have further members and may lack optional ones; an array has exactly the declared fields.  The
members are decoded in the order in which they are written, so that the first of several faults is
reported, and only then are missing members noticed.
-/

namespace CoursePlan

/-- Why a JSON value cannot be decoded. -/
inductive DecodeError where
  /-- Something has the wrong form or is missing. -/
  | wrongShape
  | invalidCode (written : String)
  | invalidLabel (e : Level.ParseError)
deriving DecidableEq, Repr

/-- What is said about a text that is no course code or no label. -/
def DecodeError.message? : DecodeError → Option String
  | wrongShape => none
  | invalidCode written => some ("invalid course code: " ++ Text.quoted written)
  | invalidLabel e => some e.message

/-- A function from JSON values that may fail. -/
abbrev Decoder (α : Type) := Json → Except DecodeError α

namespace Decoder

/-- A string. -/
def text : Decoder String
  | .string s => .ok s
  | _ => .error .wrongShape

/-- A truth value. -/
def boolean : Decoder Bool
  | .boolean b => .ok b
  | _ => .error .wrongShape

/-- A natural number up to a limit, written as an integer. -/
def natural (limit : Nat) : Decoder Nat
  | .integer n => if 0 ≤ n ∧ n ≤ limit then .ok n.toNat else .error .wrongShape
  | _ => .error .wrongShape

/-- A natural number of 32 bits. -/
def word32 (j : Json) : Except DecodeError UInt32 :=
  (natural Numeral.max32 j).map UInt32.ofNat

/-- The number of 32 bits next to any number. -/
def single : Decoder Single
  | .integer n => .ok (Binary.ofInt .single n)
  | .float x => .ok (x.convert .single)
  | _ => .error .wrongShape

/-- A course code in any spelling. -/
def code : Decoder CourseCode
  | .string s =>
    match CourseCode.parse? s with
    | some c => .ok c
    | none => .error (.invalidCode s)
  | _ => .error .wrongShape

/-- A term label in any spelling. -/
def level : Decoder Level
  | .string s => (Level.parse s).mapError .invalidLabel
  | _ => .error .wrongShape

/-- What a word denotes. -/
def named {α : Type} (ofName? : String → Option α) (s : String) : Except DecodeError α :=
  match ofName? s with
  | some a => .ok a
  | none => .error .wrongShape

/-- One of some words, written as a string or as an object that has null under the word. -/
def word {α : Type} (ofName? : String → Option α) : Decoder α
  | .string s => named ofName? s
  | .object [(s, .null)] => named ofName? s
  | _ => .error .wrongShape

/-- One of some words, as in `word` or as an object that has an empty object under the word. -/
def looseWord {α : Type} (ofName? : String → Option α) : Decoder α
  | .object [(s, .object [])] => named ofName? s
  | j => word ofName? j

/-- Null, or something. -/
def option {α : Type} (d : Decoder α) : Decoder (Option α)
  | .null => .ok none
  | j => (d j).map some

/-- An array of like items. -/
def list {α : Type} (d : Decoder α) : Decoder (List α)
  | .array items => items.mapM d
  | _ => .error .wrongShape

end Decoder

/-- The fields of a record as they are written. -/
structure JsonRecord where
  /-- Names and values in the order in which they are written. -/
  members : List (String × Json)
  /-- Whether every declared field occurs as often as it may. -/
  wellFormed : Bool

namespace JsonRecord

/-- The record written as the members of an object. -/
def ofMembers (declared : List String) (members : List (String × Json)) : JsonRecord :=
  ⟨members, declared.all fun name => (members.filter (·.1 == name)).length ≤ 1⟩

/-- The record written as the items of an array. -/
def ofItems (declared : List String) (items : List Json) : JsonRecord :=
  ⟨declared.zip items, items.length == declared.length⟩

/-- The record that a value writes. -/
def ofJson (declared : List String) : Decoder JsonRecord
  | .object members => .ok (ofMembers declared members)
  | .array items => .ok (ofItems declared items)
  | _ => .error .wrongShape

/-- Look at every member in turn, `check` telling what is wrong with the value of a field. -/
def visit (r : JsonRecord) (check : String → Json → Except DecodeError Unit) :
    Except DecodeError Unit := do
  r.members.forM fun (name, j) => check name j
  if r.wellFormed then .ok () else .error .wrongShape

/-- The value of a field that has to be there. -/
def required {α : Type} (r : JsonRecord) (name : String) (d : Decoder α) :
    Except DecodeError α :=
  match r.members.lookup name with
  | some j => d j
  | none => .error .wrongShape

/-- The value of a field that may be null or missing. -/
def optional {α : Type} (r : JsonRecord) (name : String) (d : Decoder α) :
    Except DecodeError (Option α) :=
  match r.members.lookup name with
  | some j => d.option j
  | none => .ok none

end JsonRecord

end CoursePlan
