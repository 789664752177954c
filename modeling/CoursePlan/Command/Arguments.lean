import CoursePlan.Numeral
import CoursePlan.Threshold

/-!
# Command line arguments

The program is started with the name of a command and its arguments: operands, flags such as
`--json`, and options with a value, written `--term 2A` or `--term=2A`.  After `--` everything is an
operand.  Flags and options may come anywhere after the command, each at most once.

Arguments are read from left to right, and help is given as soon as it is asked for: what follows is
not looked at, but what comes before has to be right, as far as it goes.

`Command.parse?` finds out what the arguments ask for; arguments that do not fit a command ask for
nothing.
-/

namespace CoursePlan

/-- The shells that completions can be printed for. -/
def shells : List String := ["bash", "elvish", "fish", "powershell", "zsh"]

/-- What the program can be asked to do. -/
inductive Command where
  /-- Show the requirements of a text. -/
  | parse (text : String) (json : Bool)
  /-- Review the plans in some files. -/
  | validate (files : List String) (json : Bool) (threshold : Option Nat)
  /-- Review the addition of a course to a term of the plan in a file. -/
  | check (file term course : String) (json : Bool) (threshold : Option Nat)
  /-- Write a settings file. -/
  | init (threshold : Nat) (force : Bool)
  /-- Print the completions of a shell. -/
  | completions (shell : String)
  /-- Explain the program. -/
  | help
deriving DecidableEq, Repr

namespace Command

/-- One argument, or an option together with its value. -/
inductive Argument where
  | operand (text : String)
  | flag (name : String)
  | option (name value : String)
deriving DecidableEq, Repr

/-- The arguments that a command takes. -/
structure Grammar where
  /-- The names of the flags. -/
  flags : List String := []
  /-- The names of the options, and which values they take. -/
  options : List (String × (String → Bool)) := []
  /-- Which operands the command takes. -/
  isOperand : String → Bool := fun _ => true
  /-- How many operands there may be, if there is a limit. -/
  limit : Option Nat := some 0

/-- The names of the options. -/
def Grammar.optionNames (g : Grammar) : List String :=
  g.options.map Prod.fst

/-- The operands among some arguments. -/
def operands (args : List Argument) : List String :=
  args.filterMap fun
    | .operand text => some text
    | _ => none

/-- Whether a flag is among some arguments. -/
def hasFlag (args : List Argument) (name : String) : Bool :=
  args.contains (.flag name)

/-- The values of an option among some arguments. -/
def values (args : List Argument) (name : String) : List String :=
  args.filterMap fun
    | .option n value => if n = name then some value else none
    | _ => none

/-- Whether some arguments can be among those of a command: nothing is there too often, and every
value and operand is one that the command takes. -/
def Grammar.accepts (g : Grammar) (args : List Argument) : Bool :=
  g.flags.all (fun name => args.count (.flag name) ≤ 1) &&
    g.options.all (fun (name, isValue) =>
      (values args name).length ≤ 1 && (values args name).all isValue) &&
    (operands args).all g.isOperand &&
    g.limit.all (fun n => (operands args).length ≤ n)

/-- What reading the arguments of a command comes to. -/
inductive Reading where
  | arguments (args : List Argument)
  /-- Help is asked for, and nothing was wrong before that. -/
  | help

/-- Whether an argument is a flag or an option by its look; a lone hyphen is an operand. -/
def looksLikeOption (arg : String) : Bool :=
  match arg.toList with
  | '-' :: _ :: _ => true
  | _ => false

/-- Whether an argument asks for help, as `--help` or as `-h`, behind which anything may follow. -/
def asksForHelp (arg : String) : Bool :=
  arg = "--help" ||
    match arg.toList with
    | '-' :: 'h' :: _ => true
    | _ => false

/-- The name and the value of a flag or option, given what follows its two hyphens. -/
def splitValue (cs : List Char) : String × Option String :=
  let name := String.ofList (cs.takeWhile (· ≠ '='))
  match cs.dropWhile (· ≠ '=') with
  | [] => (name, none)
  | _ :: value => (name, some (String.ofList value))

/-- Read arguments from left to right, given those before them in reverse; none if something is
wrong with them. -/
def Grammar.read? (g : Grammar) (before : List Argument) : List String → Option Reading
  | [] => if g.accepts before then some (.arguments before.reverse) else none
  | arg :: rest =>
    if asksForHelp arg then if g.accepts before then some .help else none
    else match arg.toList with
    | ['-', '-'] =>
      let args := before.reverse ++ rest.map .operand
      if g.accepts args then some (.arguments args) else none
    | '-' :: '-' :: cs =>
      match splitValue cs with
      | (name, some value) =>
        if g.optionNames.contains name then g.read? (.option name value :: before) rest else none
      | (name, none) =>
        if g.flags.contains name then g.read? (.flag name :: before) rest
        else if g.optionNames.contains name then
          match rest with
          | [] => none
          | value :: rest' =>
            if looksLikeOption value then none
            else g.read? (.option name value :: before) rest'
        else none
    | '-' :: _ :: _ => none
    | _ => g.read? (.operand arg :: before) rest

/-- The command that some arguments make, `make?` putting it together from them. -/
def Grammar.command? (g : Grammar) (rest : List String) (make? : List Argument → Option Command) :
    Option Command :=
  match g.read? [] rest with
  | some (.arguments args) => make? args
  | some .help => some .help
  | none => none

/-- The option that sets the threshold. -/
def thresholdOption : String × (String → Bool) :=
  ("max-courses-per-term", fun value => (Numeral.word64? value.toList).isSome)

/-- The threshold that an option sets, if it is there. -/
def threshold? (args : List Argument) : Option Nat :=
  (values args "max-courses-per-term").head?.bind fun value => Numeral.word64? value.toList

/-- The command `parse`. -/
def parseArgs? (rest : List String) : Option Command :=
  Grammar.command? { flags := ["json"], limit := some 1 } rest fun args =>
    match operands args with
    | [text] => some (.parse text (hasFlag args "json"))
    | _ => none

/-- The operands that can be the path of a file. -/
def isPath (text : String) : Bool :=
  !text.isEmpty

/-- The command `validate`, which takes at least one file. -/
def validateArgs? (rest : List String) : Option Command :=
  Grammar.command?
    { flags := ["json"], options := [thresholdOption], isOperand := isPath, limit := none } rest
    fun args =>
      match operands args with
      | [] => none
      | files => some (.validate files (hasFlag args "json") (threshold? args))

/-- The command `check`. -/
def checkArgs? (rest : List String) : Option Command :=
  Grammar.command?
    { flags := ["json"]
      options := [("term", fun _ => true), ("course", fun _ => true), thresholdOption]
      isOperand := isPath
      limit := some 1 } rest
    fun args =>
      match operands args, values args "term", values args "course" with
      | [file], [term], [course] =>
        some (.check file term course (hasFlag args "json") (threshold? args))
      | _, _, _ => none

/-- The command `init`. -/
def initArgs? (rest : List String) : Option Command :=
  Grammar.command? { flags := ["force"], options := [thresholdOption] } rest fun args =>
    some (.init ((threshold? args).getD Threshold.default) (hasFlag args "force"))

/-- The command `completions`. -/
def completionsArgs? (rest : List String) : Option Command :=
  Grammar.command? { isOperand := shells.contains, limit := some 1 } rest fun args =>
    match operands args with
    | [shell] => some (.completions shell)
    | _ => none

/-- The names of the commands. -/
def names : List String := ["parse", "validate", "check", "init", "completions", "help"]

/-- The command `help`, perhaps for one other command. -/
def helpArgs? : List String → Option Command
  | [] => some .help
  | [name] => if names.contains name then some .help else none
  | _ => none

/-- What some arguments ask for. -/
def parse? : List String → Option Command
  | [] => none
  | name :: rest =>
    if name = "parse" then parseArgs? rest
    else if name = "validate" then validateArgs? rest
    else if name = "check" then checkArgs? rest
    else if name = "init" then initArgs? rest
    else if name = "completions" then completionsArgs? rest
    else if name = "help" then helpArgs? rest
    else if asksForHelp name then some .help
    else none

end Command

end CoursePlan
