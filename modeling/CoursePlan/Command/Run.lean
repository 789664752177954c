import CoursePlan.Addition
import CoursePlan.Batch
import CoursePlan.Command.Arguments
import CoursePlan.Finding.Json
import CoursePlan.Requisite.Json
import CoursePlan.Requisite.Table
import CoursePlan.Settings

/-!
# Running commands

What a command prints and how it ends, and what becomes of the settings file.  Everything that a
run depends on is in its `Surroundings`, so that a run is a function.

A command that fails prints an error and the causes of it, outermost first, and ends with code 1; so
does a review that finds a plan invalid, without an error.  Arguments that ask for nothing end with
code 2.
-/

namespace CoursePlan

/-- What the program says about its own command line. -/
structure Manual where
  /-- The help that is asked for, be it on the program or on one command. -/
  help : String := ""
  /-- What is said about arguments that ask for nothing. -/
  usage : String := ""
  /-- The completions of a shell. -/
  completions : String → String := fun _ => ""

/-- What a run depends on besides its arguments. -/
structure Surroundings where
  /-- The text of a file, or the reason why it cannot be read. -/
  fileText : String → Except String String
  /-- The environment variable for the threshold, if it is set to a text. -/
  environment : Option String
  settings : SettingsFile
  /-- The time of the run, as reports give it. -/
  time : String
  /-- The texts about the command line; nothing else that a run does depends on them. -/
  manual : Manual := {}

/-- What a run does. -/
structure Outcome where
  code : Nat
  stdout : String
  stderr : String
  /-- The text of the settings file after the run, if there is one. -/
  settings : Option String
deriving DecidableEq, Repr

/-- A report on the plan in some file.  The time at which it was made is left out: a run writes one
time, that of its surroundings, into all its reports, although each is made at a time of its own. -/
structure FileReport where
  file : String
  plan : String
  report : Report
deriving DecidableEq

namespace FileReport

/-- The report as an object, with the time that it is given. -/
def toJson (time : String) (r : FileReport) : Json :=
  .object (("file", .string r.file) :: ("plan", .string r.plan) ::
    ("checked_at", .string time) :: r.report.members)

/-- The line that heads the report. -/
def heading (r : FileReport) : String :=
  "Plan: " ++ r.plan ++ " (" ++ r.file ++ ")\n"

/-- The report as text. -/
def render (r : FileReport) : String :=
  r.heading ++ r.report.render

end FileReport

namespace Failure

/-- A text with some spaces in front of every line after the first. -/
def hang (indent : Nat) (s : String) : String :=
  String.ofList (s.toList.flatMap fun c =>
    if c = '\n' then '\n' :: List.replicate indent ' ' else [c])

/-- The causes of an error, one after the other.  They are numbered when there are several. -/
def causesText : List String → String
  | [] => ""
  | [cause] => "\n    " ++ hang 4 cause
  | causes => String.join (causes.zipIdx.map fun (cause, i) =>
      "\n" ++ String.ofList (List.replicate (5 - (Numeral.digits i).length) ' ') ++
        Numeral.text i ++ ": " ++ hang 7 cause)

/-- What is printed about an error, given in words and followed by what caused it. -/
def text : List String → String
  | [] => ""
  | [e] => "Error: " ++ e ++ "\n"
  | e :: causes => "Error: " ++ e ++ "\n\nCaused by:" ++ causesText causes ++ "\n"

end Failure

namespace Command

/-- What a command prints and whether everything that it reviewed is valid, or an error in words
followed by what caused it. -/
abbrev Answer := Except (List String) (String × Bool)

/-- The command `parse`. -/
def runParse (text : String) (json : Bool) : String :=
  let r := Requirements.parse (some text)
  if json then r.toJson.pretty ++ "\n" else r.render

/-- The report on the plan in a file. -/
def reviewFile (s : Surroundings) (threshold : Nat) (file : String) :
    Except (List String) FileReport :=
  match s.fileText file with
  | .error reason => .error ["failed to read plan file " ++ file, reason]
  | .ok text =>
    match PlanFile.loadText 0 text with
    | .error e => .error (("failed to load plan " ++ file) :: e.chain)
    | .ok loaded => .ok ⟨file, loaded.plan.name, loaded.plan.review threshold⟩

/-- What the reports on several files look like together. -/
def renderReports (s : Surroundings) (json : Bool) (reports : List FileReport) : String :=
  if json then (Json.array (reports.map (FileReport.toJson s.time))).pretty ++ "\n"
  else "\n".intercalate (reports.map FileReport.render)

/-- The command `validate` on a number of files, whose reviews finish in the order in which they
are listed, each with the number of its file. -/
def runValidate (s : Surroundings) (json : Bool) (count : Nat)
    (finished : List (Nat × Except (List String) FileReport)) : Answer := do
  let reports ← Batch.gather count finished
  .ok (renderReports s json reports, reports.all (·.report.isValid))

/-- The reviews of some files, with their numbers, in the order of the files. -/
def reviews (s : Surroundings) (threshold : Nat) (files : List String) :
    List (Nat × Except (List String) FileReport) :=
  files.zipIdx.map fun (file, i) => (i, reviewFile s threshold file)

/-- The command `check` at a threshold. -/
def runCheck (s : Surroundings) (threshold : Nat) (file term course : String) (json : Bool) :
    Answer :=
  match s.fileText file with
  | .error reason => .error ["failed to read plan file " ++ file, reason]
  | .ok text =>
    match Addition.review threshold text term course with
    | .error e => .error (("cannot check " ++ course ++ " in " ++ file) :: e.chain)
    | .ok named =>
      let r : FileReport := ⟨file, named.plan, named.report⟩
      let printed :=
        if json then (r.toJson s.time).pretty ++ "\n"
        else r.heading ++ "Adding " ++ course ++ " to " ++ term ++ ":\n" ++ r.report.render
      .ok (printed, r.report.isValid)

/-- The command `init`: what it prints, and the new text of the settings file. -/
def runInit (settings : SettingsFile) (threshold : Nat) (force : Bool) :
    Except (List String) (String × String) :=
  if settings.text.isSome && !force then
    .error ["config file already exists at " ++ settings.path ++ "\nUse --force to overwrite."]
  else
    match Threshold.positive threshold with
    | .error e => .error (ResolveError.flag e).chain
    | .ok n =>
      match SettingsFile.write n with
      | .error e => .error e.chain
      | .ok text =>
        .ok ("Config written to " ++ settings.path ++ "\n  validation.max_courses_per_term = " ++
          Numeral.text n ++ "\n", text)

/-- The outcome of an answer; the settings file stays as it is. -/
def Answer.outcome (settings : SettingsFile) : Answer → Outcome
  | .error chain => ⟨1, "", Failure.text chain, settings.text⟩
  | .ok (printed, valid) => ⟨if valid then 0 else 1, printed, "", settings.text⟩

/-- The answer of a review at the threshold that counts. -/
def withThreshold (s : Surroundings) (flag : Option Nat) (review : Nat → Answer) : Answer :=
  match resolveThreshold flag s.environment s.settings with
  | .error e => .error e.chain
  | .ok threshold => review threshold

/-- The outcome of a command. -/
def run (s : Surroundings) : Command → Outcome
  | .parse text json => ⟨0, runParse text json, "", s.settings.text⟩
  | .validate files json flag =>
    Answer.outcome s.settings <| withThreshold s flag fun threshold =>
      runValidate s json files.length (reviews s threshold files)
  | .check file term course json flag =>
    Answer.outcome s.settings <| withThreshold s flag fun threshold =>
      runCheck s threshold file term course json
  | .init threshold force =>
    match runInit s.settings threshold force with
    | .error chain => ⟨1, "", Failure.text chain, s.settings.text⟩
    | .ok (printed, text) => ⟨0, printed, "", some text⟩
  | .completions shell => ⟨0, s.manual.completions shell, "", s.settings.text⟩
  | .help => ⟨0, s.manual.help, "", s.settings.text⟩

/-- The outcome of a run with some arguments. -/
def runArguments (s : Surroundings) (args : List String) : Outcome :=
  match parse? args with
  | some command => run s command
  | none => ⟨2, "", s.manual.usage, s.settings.text⟩

end Command

end CoursePlan
