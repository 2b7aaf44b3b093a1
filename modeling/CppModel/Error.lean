import CppModel.Config.Fault
import CppModel.Grammar.Violation

/-!
# Errors

Everything that can go wrong between a model file and its generated text, as
causes.  The wording, the code and the advice of an error are functions of its
cause.
-/

namespace CppModel

/-- The kinds of elements that code is generated for. -/
inductive ElementKind
  | function
  | method
  | constructor
  | dataVariable
  | array
  | enumeration
  | classType
  deriving DecidableEq, Repr

/-- The name of a kind in messages. -/
def ElementKind.word : ElementKind → String
  | function => "function"
  | method => "method"
  | constructor => "constructor"
  | dataVariable => "variable"
  | array => "array"
  | enumeration => "enum"
  | classType => "class"

/-- Why a model or an element was refused. -/
inductive Error
  /-- A file that could not be read as text. -/
  | unreadable (path : String)
  /-- A model text in the named file that is no model.  The fault is known when
  the text as such could be read. -/
  | malformed (file : String) (fault : Option Config.Fault)
  /-- A table that does not configure an element of the given kind. -/
  | misconfigured (kind : ElementKind) (fault : Config.Fault)
  /-- An element that breaks the grammar of declarations. -/
  | grammar (kind : ElementKind) (name : String) (violation : Violation)
  /-- An element that has to be defined and has no body. -/
  | missingImplementation (kind : ElementKind) (name : String)
  /-- A pure virtual method that was to be defined. -/
  | pureVirtualDefinition (name : String)
  /-- A member function outside of any class. -/
  | orphan (kind : ElementKind) (name : String)

namespace Error

/-- The error in words. -/
def message : Error → String
  | unreadable path => "failed to read '" ++ path ++ "'"
  | malformed _ _ => "failed to parse model"
  | misconfigured kind fault =>
      "invalid " ++ kind.word ++ " configuration: " ++ fault.message
  | grammar kind name violation =>
      kind.word ++ " '" ++ name ++ "': " ++ violation.message
  | missingImplementation kind name =>
      "no implementation for " ++ kind.word ++ " '" ++ name ++ "'"
  | pureVirtualDefinition name => "pure virtual method '" ++ name ++ "' cannot be defined"
  | orphan kind name => kind.word ++ " '" ++ name ++ "' must belong to a class"

/-- The code that identifies the kind of error in a report. -/
def code? : Error → Option String
  | unreadable _ => none
  | malformed _ _ => some "cgen::parse_error"
  | misconfigured _ _ => some "cgen::config"
  | grammar _ _ _ => some "cgen::grammar"
  | missingImplementation _ _ => some "cgen::missing_implementation"
  | pureVirtualDefinition _ => some "cgen::pure_virtual_definition"
  | orphan _ _ => some "cgen::orphan"

/-- What to do about it, where there is a usual way out. -/
def help? : Error → Option String
  | missingImplementation _ _ =>
      some "attach a body with `implementation`, or declare the method pure virtual"
  | orphan _ _ => some "add it to a class with `add_method` before rendering"
  | _ => none

end Error

end CppModel
