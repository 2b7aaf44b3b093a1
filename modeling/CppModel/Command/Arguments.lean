import CppModel.Command.Completion

/-!
# Command line arguments

The arguments name a command and its options.  An option takes its value behind
an equals sign or from the next argument, and a command runs only if it is given
at most once at each of the two levels, in front of the name of the command and
behind it.  Behind `--` every argument is taken as it stands.

Arguments are read from left to right, and the first one that is wrong or that
asks for help or for the version decides.
-/

namespace CppModel.Command

/-- What the program can do. -/
inductive Action
  /-- Write the header and the source of a model, each to a file if one is
  named. -/
  | render (model : String) (header source : Option String)
  | check (model : String)
  | completions (shell : Shell)
  deriving DecidableEq, Repr

/-- What the arguments ask for. -/
inductive Request
  | help
  | version
  /-- Arguments that make no sense. -/
  | refused
  /-- A command, with the log level that was named. -/
  | command (level : Option String) (action : Action)
  deriving DecidableEq, Repr

/-- The name of a command. -/
inductive Verb
  | render
  | check
  | completions
  deriving DecidableEq, Repr

namespace Verb

/-- The command that a word names. -/
def ofWord? : String → Option Verb
  | "render" => some render
  | "check" => some check
  | "completions" => some completions
  | _ => none

/-- Whether a command has an option that names a file. -/
def hasFileOption (verb : Verb) (name : String) : Bool :=
  verb == render && (name == "header" || name == "source")

end Verb

namespace Arguments

/-- The option that names the log level, which every command has. -/
def levelOption : String := "log-level"

/-- An argument, by its form. -/
inductive Form
  /-- Two dashes alone. -/
  | separator
  /-- Two dashes and a name, with the text behind an equals sign. -/
  | long (name : String) (value : Option String)
  /-- One dash and the character that follows it. -/
  | short (flag : Char)
  | word (text : String)
  deriving DecidableEq, Repr

/-- The name of a long option and the text behind its equals sign. -/
def splitLong (characters : List Char) : Form :=
  let name := String.ofList (characters.takeWhile (· != '='))
  match characters.dropWhile (· != '=') with
  | [] => .long name none
  | _ :: value => .long name (some (String.ofList value))

/-- The form of an argument. -/
def form (argument : String) : Form :=
  match argument.toList with
  | ['-', '-'] => .separator
  | '-' :: '-' :: rest => splitLong rest
  | '-' :: flag :: _ => .short flag
  | _ => .word argument

/-- What stands behind the name of a command: the positional argument and the
options that have been read. -/
structure Collected where
  positional : Option String := none
  options : List (String × String) := []
  deriving DecidableEq, Repr

namespace Collected

/-- Take an option that has not been given yet. -/
def addOption (collected : Collected) (name value : String) : Option Collected :=
  if collected.options.any (·.1 == name) then none
  else some { collected with options := collected.options ++ [(name, value)] }

/-- Take the positional argument, of which there is one. -/
def addPositional (collected : Collected) (value : String) : Option Collected :=
  if collected.positional.isSome then none else some { collected with positional := some value }

/-- The value of an option. -/
def option? (collected : Collected) (name : String) : Option String :=
  collected.options.lookup name

end Collected

/-- Whether a value is fit for an option: the name of a file is not empty. -/
def isValue (name value : String) : Bool :=
  name == levelOption || !value.isEmpty

/-- Whether a value is fit for the positional argument of a command. -/
def isPositional (verb : Verb) (value : String) : Bool :=
  match verb with
  | .completions => (Shell.ofWord? value).isSome
  | _ => !value.isEmpty

/-- The command that has been read, if nothing is missing. -/
def finish (level : Option String) (verb : Verb) (collected : Collected) : Request :=
  let level := (collected.option? levelOption).or level
  match verb, collected.positional with
  | _, none => .refused
  | .render, some model =>
      .command level (.render model (collected.option? "header") (collected.option? "source"))
  | .check, some model => .command level (.check model)
  | .completions, some name =>
      match Shell.ofWord? name with
      | some shell => .command level (.completions shell)
      | none => .refused

/-- The arguments behind `--`, all of them positional. -/
def positionals (verb : Verb) : List String → Collected → Option Collected
  | [], collected => some collected
  | argument :: rest, collected =>
      if isPositional verb argument then
        (collected.addPositional argument).bind (positionals verb rest)
      else none

/-- The arguments behind the name of a command. -/
def commandRequest (level : Option String) (verb : Verb) :
    List String → Collected → Request
  | [], collected => finish level verb collected
  | argument :: rest, collected =>
      match form argument with
      | .separator =>
          match positionals verb rest collected with
          | some collected => finish level verb collected
          | none => .refused
      | .short flag => if flag = 'h' then .help else .refused
      | .word text =>
          match isPositional verb text, collected.addPositional text with
          | true, some collected => commandRequest level verb rest collected
          | _, _ => .refused
      | .long "help" none => .help
      | .long name value =>
          if name == levelOption || verb.hasFileOption name then
            match value, rest with
            | some value, rest =>
                match isValue name value, collected.addOption name value with
                | true, some collected => commandRequest level verb rest collected
                | _, _ => .refused
            | none, [] => .refused
            | none, next :: rest =>
                match form next, isValue name next, collected.addOption name next with
                | .word _, true, some collected => commandRequest level verb rest collected
                | _, _, _ => .refused
          else .refused

/-- The arguments behind `help`: nothing, or the name of one command. -/
def helpRequest : List String → Request
  | [] => .help
  | [topic] => if topic = "help" ∨ (Verb.ofWord? topic).isSome then .help else .refused
  | _ => .refused

/-- What has been read in front of the name of a command. -/
structure Opening where
  /-- The log level that was named first. -/
  level : Option String := none
  /-- Whether another log level has been named behind it. -/
  isRepeated : Bool := false
  deriving DecidableEq, Repr

namespace Opening

/-- Take a log level. -/
def name (opening : Opening) (level : String) : Opening :=
  if opening.level.isSome then { opening with isRepeated := true }
  else { opening with level := some level }

/-- What is asked for, if it is not a command behind a log level that was named
twice. -/
def accept (opening : Opening) : Request → Request
  | .command level action => if opening.isRepeated then .refused else .command level action
  | request => request

end Opening

/-- The arguments in front of the name of a command.  A log level that was named
once more is refused by the next option, or by a command that would run, but not
by the help for a command. -/
def request (opening : Opening) : List String → Request
  | [] => .refused
  | argument :: rest =>
      match form argument with
      | .word "help" => helpRequest rest
      | .word text =>
          match Verb.ofWord? text with
          | some verb => opening.accept (commandRequest opening.level verb rest {})
          | none => .refused
      | .separator => .refused
      | .short flag =>
          if opening.isRepeated then .refused
          else if flag = 'h' then .help
          else if flag = 'V' then .version
          else .refused
      | .long "help" none => if opening.isRepeated then .refused else .help
      | .long "version" none => if opening.isRepeated then .refused else .version
      | .long name value =>
          if name != levelOption || opening.isRepeated then .refused
          else
            match value, rest with
            | some value, rest =>
                if opening.level.isSome then .refused else request (opening.name value) rest
            | none, [] => .refused
            | none, next :: rest =>
                match form next with
                | .word value => request (opening.name value) rest
                | _ => .refused

end Arguments

/-- What the arguments of the program ask for. -/
def Request.ofArguments (arguments : List String) : Request :=
  Arguments.request {} arguments

end CppModel.Command
