import CoursePlan.Command.Run
import Std.Time.Format

/-!
# The program

Collects the surroundings of a run, lets `Command.runArguments` decide what happens, and does it:
prints the texts, writes the settings file if it has changed, and ends with the exit code.
-/

namespace CoursePlan.Program

/-- The system's reason for not reading a file. -/
def reason : IO.Error → String
  | .noFileOrDirectory .. => noSuchFile
  | .permissionDenied .. => "Permission denied (os error 13)"
  | .inappropriateType .. => "Is a directory (os error 21)"
  | e => toString e

/-- The text of a file, or the reason why it cannot be read. -/
def readText (path : String) : IO (Except String String) := do
  try
    return .ok (← IO.FS.readFile path)
  catch e =>
    return .error (reason e)

/-- The text of the settings file, if there is one.  A file that is there but cannot be read counts
as an empty one, which sets nothing either. -/
def readSettings (path : String) : IO (Option String) := do
  match ← readText path with
  | .ok text => return some text
  | .error cause => return if cause = noSuchFile then none else some ""

/-- The files that a command reads. -/
def filesOf : Option Command → List String
  | some (.validate files ..) => files
  | some (.check file ..) => [file]
  | _ => []

/-- The present time in the form of reports. -/
def timeText : IO String := do
  let now := Std.Time.DateTime.ofTimestampWithZone (← Std.Time.Timestamp.now) .UTC
  return now.format "uuuu-MM-dd'T'HH:mm:ss.SSSSSSSSS" ++ "Z"

/-- The texts about the command line: they name the commands and no more. -/
def manual : Manual where
  help := "Usage: termplan <COMMAND>\n\nCommands: " ++ ", ".intercalate Command.names ++ "\n"
  usage := "Usage: termplan <COMMAND>\n"
  completions := fun _ => String.join (Command.names.map (· ++ "\n"))

/-- Everything that a run with some arguments depends on. -/
def surroundings (path : String) (args : List String) : IO Surroundings := do
  let texts ← (filesOf (Command.parse? args)).mapM fun file => do
    return (file, ← readText file)
  let settings ← readSettings path
  return {
    fileText := fun file => (texts.lookup file).getD (.error noSuchFile)
    environment := ← IO.getEnv Threshold.variableName
    settings := ⟨path, settings⟩
    time := ← timeText
    manual
  }

end CoursePlan.Program

open CoursePlan in
/-- Runs the program with its command line arguments. -/
def main (args : List String) : IO UInt32 := do
  let chosen ← IO.getEnv "XDG_CONFIG_HOME"
  let home ← IO.getEnv "HOME"
  let path := SettingsFile.location chosen home
  let s ← Program.surroundings path args
  let outcome := Command.runArguments s args
  IO.print outcome.stdout
  IO.eprint outcome.stderr
  if outcome.settings != s.settings.text then
    IO.FS.createDirAll (SettingsFile.directory chosen home)
    IO.FS.writeFile path (outcome.settings.getD "")
  return UInt32.ofNat outcome.code
