import CppModel.Command.Arguments
import CppModel.Command.Files
import CppModel.Command.Summary
import CppModel.Model

/-!
# Running commands

A command is planned before it has any effect: from the bytes of the model it
follows what is to be written to which file and what is to be printed, or which
error there is.  Carrying out a plan writes the files one after another, and
prints only if all of them could be written.  A path may name the standard output
itself, which then gets the text at once.

A message or a text that its stream refuses makes the program panic, at the point
that has been reached by then.
-/

namespace CppModel.Command

/-- What a command is going to do. -/
structure Plan where
  /-- Texts to be written, with the paths of their files. -/
  writes : List (String × String)
  /-- What is printed when everything has been written. -/
  output : String
  deriving DecidableEq, Repr

/-- The two texts of a model. -/
structure Texts where
  header : String
  source : String
  deriving DecidableEq, Repr

/-- Render a model in memory: the header first, then the source. -/
def renderTexts (model : Model) : Except Error Texts := do
  let (unit, context) := model.build
  let header ← unit.header context
  let source ← unit.source context
  let sink := Sink.empty .cpp
  pure ⟨header.textAt sink, source.textAt sink⟩

namespace Plan

/-- Send a text to the file that is named for it. -/
def fileWrites (path : Option String) (text : String) : List (String × String) :=
  match path with
  | some path => [(path, text)]
  | none => []

/-- A text that is printed because no file is named for it. -/
def printed (path : Option String) (text : String) : List String :=
  if path.isNone && !text.isEmpty then [text] else []

/-- Where the texts of a model go: to the files that are named, and otherwise to
the output, if they are not empty. -/
def ofTexts (header source : Option String) (texts : Texts) : Plan where
  writes := fileWrites header texts.header ++ fileWrites source texts.source
  output := "\n".intercalate (printed header texts.header ++ printed source texts.source)

end Plan

namespace Action

/-- The path of the model that a command works on. -/
def modelPath? : Action → Option String
  | .render model _ _ => some model
  | .check model => some model
  | .completions _ => none

/-- Plan a command, given the bytes of the model file, if it can be read. -/
def plan (action : Action) (bytes : Option ByteArray) : Except Error Plan :=
  match action with
  | .completions shell => .ok ⟨[], shell.script⟩
  | .check path => do
      let model ← Model.ofBytes path bytes
      let _ ← renderTexts model
      pure ⟨[], summary path model⟩
  | .render path header source => do
      let model ← Model.ofBytes path bytes
      let texts ← renderTexts model
      pure (.ofTexts header source texts)

end Action

/-- How a run of the program ends. -/
structure Outcome where
  exitCode : Nat
  /-- The tree of files with the streams, as the program leaves it. -/
  files : Files

/-- What a reader of the standard output sees, if it is text. -/
def Outcome.output (outcome : Outcome) : String :=
  (String.fromUTF8? outcome.files.output.bytes).getD ""

namespace Files

/-- The exit code of a panic.  If the panic itself cannot be told, the program is stopped
by a signal, and the code is that of a shell. -/
def panicCode (files : Files) : Nat :=
  if files.isTold .panic then 101 else 134

/-- The exit code for a model that is refused. -/
def refusalCode (files : Files) : Nat :=
  if files.isTold .report then 1 else files.panicCode

/-- Print a text as the last thing that is done.  If the standard output does not take all
of it, the program panics.  What a command prints is empty or ends a line, as
`Action.endsLine_plan` says, so that line buffering holds nothing of it back. -/
def print (files : Files) (text : String) : Outcome where
  exitCode := if files.output.takes text then 0 else files.panicCode
  files := { files with output := files.output.print text }

end Files

/-- Carry out a plan on a tree of files.  It does not matter whether a failure to write can
be told. -/
def Plan.carryOut (plan : Plan) (files : Files) : Outcome :=
  match files.writeAll plan.writes with
  | (true, written) => written.print plan.output
  | (false, written) => ⟨1, written⟩

/-- Run a command on a tree of files. -/
def Action.run (action : Action) (files : Files) : Outcome :=
  match action.plan (action.modelPath?.bind files.read?) with
  | .ok plan => plan.carryOut files
  | .error _ => ⟨files.refusalCode, files⟩

/-- The version of the program. -/
def versionText : String := "cgen 0.1.0\n"

/-- How the program is used. -/
def helpText : String :=
  "Generate C++ headers and sources from TOML models\n\n" ++
  "Usage: cgen [--log-level LEVEL] COMMAND\n\n" ++
  "  render MODEL [--header FILE] [--source FILE]\n" ++
  "  check MODEL\n" ++
  "  completions SHELL\n"

/-- The log level when none is named. -/
def defaultLevel : String := "warn"

/-- The names of the log levels, from the quietest on. -/
def levels : List String := ["off", "error", "warn", "info", "debug", "trace"]

/-- Whether a text names a log level, in letters of either case. -/
def isLevel (name : String) : Bool :=
  levels.contains (name.map Char.toLower)

/-- The notice about a log level that does not exist. -/
def levelNotice? (level : Option String) : Option String :=
  match level with
  | none => none
  | some name =>
      if isLevel name then none
      else some ("Invalid log level: " ++ name ++ ". Using '" ++ defaultLevel ++ "' instead.")

/-- Whether the notice about a log level can be told, if there is one. -/
def Files.announces (files : Files) (level : Option String) : Bool :=
  (levelNotice? level).isNone || files.isTold .notice

namespace Request

/-- What is told on the error stream before a command runs. -/
def notice? : Request → Option String
  | .command level _ => levelNotice? level
  | _ => none

/-- Answer a request on a tree of files.  Nobody notices if the help or the version cannot
be printed. -/
def run (request : Request) (files : Files) : Outcome :=
  match request with
  | .help => ⟨0, (files.print helpText).files⟩
  | .version => ⟨0, (files.print versionText).files⟩
  | .refused => ⟨2, files⟩
  | .command level action =>
      if files.announces level then action.run files else ⟨files.panicCode, files⟩

end Request

end CppModel.Command
