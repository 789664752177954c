import CoursePlan.Number.Binary

/-!
# TOML values

What a TOML document says: values under keys, nested in tables and arrays.  The order of the
entries of a table carries no meaning, but it is kept; no key occurs twice in a table that was read
from a document.

The functions at the end take values apart for whoever expects a certain form.  A *record*, a value
with a fixed list of fields, is written as a table or, more tersely, as an array that has the
fields in their order.
-/

namespace CoursePlan.Toml

/-- A value of a document. -/
inductive Value where
  | string (s : String)
  | integer (n : Int)
  | float (x : Double)
  | boolean (b : Bool)
  /-- A date, a time of day, or both, as it was written. -/
  | dateTime (written : String)
  | array (items : List Value)
  | table (entries : List (String × Value))

/-- The entries of a table. -/
abbrev Table := List (String × Value)

namespace Value

/-- The text of a string. -/
def string? : Value → Option String
  | string s => some s
  | _ => none

/-- The truth value of a boolean. -/
def boolean? : Value → Option Bool
  | boolean b => some b
  | _ => none

/-- The number of an integer that is not negative. -/
def natural? : Value → Option Nat
  | integer n => if 0 ≤ n then some n.toNat else none
  | _ => none

/-- The number of 32 bits next to a number.  Integers are rounded at once, other numbers have
already been rounded to 64 bits when they were read. -/
def single? : Value → Option Single
  | integer n => some (Binary.ofInt .single n)
  | float x => some (x.convert .single)
  | _ => none

/-- The items of an array, each of which has to have a certain form. -/
def listOf? {α : Type} (item? : Value → Option α) : Value → Option (List α)
  | array items => items.mapM item?
  | _ => none

/-- The fields of a record whose fields are declared in a certain order.  Items of an array past
the declared fields are ignored, as are unknown keys of a table. -/
def fields? (declared : List String) : Value → Option Table
  | table entries => some entries
  | array items => some (declared.zip items)
  | _ => none

end Value

namespace Table

/-- The value of a field that has to be there and to have a certain form. -/
def required? {α : Type} (fields : Table) (name : String) (value? : Value → Option α) :
    Option α :=
  (fields.lookup name).bind value?

/-- The value of a field that may be missing but has to have a certain form if it is there. -/
def optional? {α : Type} (fields : Table) (name : String) (value? : Value → Option α) :
    Option (Option α) :=
  match fields.lookup name with
  | none => some none
  | some v => (value? v).map some

/-- The items of a field that counts as an empty list when it is missing. -/
def list? {α : Type} (fields : Table) (name : String) (item? : Value → Option α) :
    Option (List α) :=
  (fields.optional? name (Value.listOf? item?)).map (·.getD [])

end Table

end CoursePlan.Toml
