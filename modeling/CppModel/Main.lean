import CppModel.Command.Run

/-!
# The program

The command line around the planned commands: it reads the model file, writes
the planned files, and reports on the two output streams.
-/

namespace CppModel

open Command

/-- Tell something on the error stream, if the stream takes it. -/
def tell (text : String) : IO Bool := do
  try
    IO.eprintln text
    pure true
  catch _ => pure false

/-- The exit code of a panic. -/
def panic (text : String) : IO UInt32 := do
  if ← tell text then pure 101 else pure 134

/-- Print a text, if the standard output takes it. -/
def print (text : String) : IO Bool := do
  try
    let output ← IO.getStdout
    output.putStr text
    output.flush
    pure true
  catch _ => pure false

/-- The bytes of a file, if it can be read. -/
def readBytes (path : String) : IO (Option ByteArray) := do
  try
    let bytes ← IO.FS.readBinFile path
    pure (some bytes)
  catch _ => pure none

/-- Write texts to files one after another, up to the first failure. -/
def writeFiles : List (String × String) → IO Bool
  | [] => pure true
  | (path, text) :: rest => do
      let written ← try
          IO.FS.writeFile path text
          pure true
        catch error =>
          let _ ← tell s!"Failed to write {path}: {error}"
          pure false
      if written then writeFiles rest else pure false

/-- Run a command on the files of the system. -/
def runCommand (action : Action) : IO UInt32 := do
  let bytes ← match action.modelPath? with
    | some path => readBytes path
    | none => pure none
  match action.plan bytes with
  | .error error =>
      if ← tell error.message then pure 1 else panic "The report cannot be told"
  | .ok plan =>
      if ← writeFiles plan.writes then
        if ← print plan.output then pure 0 else panic "The output cannot be printed"
      else pure 1

/-- Answer the arguments of the program. -/
def answer (arguments : List String) : IO UInt32 := do
  let request := Request.ofArguments arguments
  let announced ← match request.notice? with
    | some notice => tell notice
    | none => pure true
  if !announced then
    return ← panic "The notice cannot be told"
  match request with
  | .help =>
      let _ ← print helpText
      pure 0
  | .version =>
      let _ ← print versionText
      pure 0
  | .refused =>
      let _ ← tell helpText
      pure 2
  | .command _ action => runCommand action

end CppModel

/-- The entry point. -/
def main (arguments : List String) : IO UInt32 :=
  CppModel.answer arguments
