/-!
# Shell completions

A short script for each of the known shells that completes the names of the
commands.
-/

namespace CppModel.Command

/-- A shell that completions can be made for. -/
inductive Shell
  | bash
  | elvish
  | fish
  | powershell
  | zsh
  deriving DecidableEq, Repr

namespace Shell

/-- The shells, in alphabetical order. -/
def all : List Shell := [bash, elvish, fish, powershell, zsh]

/-- The name of a shell on the command line. -/
def word : Shell → String
  | bash => "bash"
  | elvish => "elvish"
  | fish => "fish"
  | powershell => "powershell"
  | zsh => "zsh"

/-- The shell with a name. -/
def ofWord? (name : String) : Option Shell :=
  all.find? (·.word == name)

/-- The words that are completed. -/
def completed : String := "render check completions help"

/-- The script that a shell loads. -/
def script : Shell → String
  | bash => "complete -W \"" ++ completed ++ "\" cgen\n"
  | elvish =>
      "set edit:completion:arg-completer[cgen] = \x7b|@words| put " ++ completed ++ " \x7d\n"
  | fish => "complete -c cgen -n __fish_use_subcommand -a \"" ++ completed ++ "\"\n"
  | powershell =>
      "Register-ArgumentCompleter -Native -CommandName cgen -ScriptBlock \x7b -split \"" ++
        completed ++ "\" \x7d\n"
  | zsh => "compdef \"_values command " ++ completed ++ "\" cgen\n"

/-- A shell is found under its own name. -/
theorem ofWord?_word (shell : Shell) : ofWord? shell.word = some shell := by
  cases shell <;> decide

end Shell

end CppModel.Command
