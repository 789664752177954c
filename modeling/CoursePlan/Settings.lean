import CoursePlan.Threshold
import CoursePlan.Toml.Document

/-!
# Settings

The threshold can be set in three places: by a flag of the command line, by an environment
variable, and in a settings file, which is the TOML document

```
[validation]
max_courses_per_term = 6
```

The flag counts for more than the variable, and the variable for more than the file.  A settings
file that is not there, or does not have this form, sets nothing.
-/

namespace CoursePlan

/-- Where the settings file of a user is, and what it holds. -/
structure SettingsFile where
  path : String
  /-- The text of the file, if there is one.  A file whose bytes are no text counts as an empty one:
  neither sets anything, and both are there. -/
  text : Option String
deriving DecidableEq, Repr

/-- Why a settings file says nothing. -/
inductive SettingsFileError where
  | missing (path : String)
  | malformed
  /-- The threshold is past the integers of TOML. -/
  | unwritable
deriving DecidableEq, Repr

/-- The reason that the system gives when a file is not there. -/
def noSuchFile : String := "No such file or directory (os error 2)"

namespace SettingsFileError

/-- The error in words, followed by what caused it. -/
def chain : SettingsFileError → List String
  | missing path => ["failed to read config file at " ++ path, noSuchFile]
  | malformed => ["failed to parse config file", "the text is no settings file"]
  | unwritable => ["failed to serialize config", "out of range"]

end SettingsFileError

namespace SettingsFile

/-- A path with one more component. -/
def joinPath (path component : String) : String :=
  if path.isEmpty then component
  else if path.endsWith "/" then path ++ component
  else path ++ "/" ++ component

/-- The directory of the settings file, given the directory for settings in general, if the user has
chosen one, and the home directory. -/
def directory (chosen home : Option String) : String :=
  joinPath (chosen.getD (joinPath (home.getD ".") ".config")) "termplan"

/-- The path of the settings file. -/
def location (chosen home : Option String) : String :=
  joinPath (directory chosen home) "config.toml"

open Toml (Value Table)

/-- The threshold that a value of `validation` sets. -/
def section? (v : Value) : Option Nat := do
  let fields ← v.fields? ["max_courses_per_term"]
  Table.required? fields "max_courses_per_term" Value.natural?

/-- The threshold that the text of a settings file sets. -/
def read? (text : String) : Option Nat := do
  let fields ← Toml.read? text
  Table.required? fields "validation" section?

/-- The threshold that a settings file sets, be it a usable one or not. -/
def threshold (f : SettingsFile) : Except SettingsFileError Nat :=
  match f.text with
  | none => .error (.missing f.path)
  | some text =>
    match read? text with
    | some n => .ok n
    | none => .error .malformed

/-- The text of a settings file that sets a threshold; it has to be an integer of TOML. -/
def write (n : Nat) : Except SettingsFileError String :=
  if n ≤ Numeral.maxSigned64 then
    .ok ("[validation]\nmax_courses_per_term = " ++ Numeral.text n ++ "\n")
  else .error .unwritable

end SettingsFile

/-- Why no threshold can be settled on. -/
inductive ResolveError where
  | flag (e : ThresholdError)
  | environment (e : ThresholdError)
  | file (path : String) (e : ThresholdError)
deriving DecidableEq, Repr

namespace ResolveError

/-- The error in words, followed by what caused it. -/
def chain : ResolveError → List String
  | flag e => ["invalid --max-courses-per-term", e.message]
  | environment e => [e.message]
  | file path e => ["invalid config file " ++ path, e.message]

end ResolveError

/-- The threshold that counts: that of the flag, else that of the variable, else that of the
settings file, else the default. -/
def resolveThreshold (flag : Option Nat) (environment : Option String) (file : SettingsFile) :
    Except ResolveError Nat :=
  match flag with
  | some n => (Threshold.positive n).mapError .flag
  | none =>
    match Threshold.ofVariable environment with
    | .error e => .error (.environment e)
    | .ok (some n) => .ok n
    | .ok none =>
      match file.threshold with
      | .ok n => (Threshold.positive n).mapError (.file file.path)
      | .error _ => .ok Threshold.default

end CoursePlan
