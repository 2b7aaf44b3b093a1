import CppModel.Procedure

/-!
# Free functions

A function outside of any class.  Its declaration goes into the header and its
definition into the source, except that a `constexpr` function is written with
its body where it is declared and has no definition of its own.

Every form is given twice: as a rendering, which is decided before anything is
written, and as the procedure that writes it.
-/

namespace CppModel

/-- A function that is not a member of a class. -/
structure FreeFunction where
  name : String
  link : Scope.Link := none
  returnType : Option String := none
  isConstexpr : Bool := false
  arguments : List String := []
  /-- What the body writes between the braces. -/
  body : Option Script := none
  documentation : Option String := none

namespace FreeFunction

open Declarator Procedure

/-- A function without arguments and without a body. -/
def ofName (name : String) : FreeFunction := { name := name }

/-- The function with one more argument. -/
def addArgument (function : FreeFunction) (argument : String) : FreeFunction :=
  { function with arguments := function.arguments ++ [argument] }

/-- A `constexpr` function has to be written with its body. -/
def validate (function : FreeFunction) : Except Error Unit :=
  if function.isConstexpr && function.body.isNone then
    .error (.grammar .function function.name .constexprWithoutBody)
  else .ok ()

/-- The first line of the function, without what ends it. -/
def header (function : FreeFunction) : String :=
  join [keyword function.isConstexpr Modifier.constexpr.word, function.returnType.getD "",
    signature function.name function.arguments]

/-- The function with its body. -/
def render (function : FreeFunction) : Rendering := do
  function.validate
  match function.body with
  | none => throw (.missingImplementation .function function.name)
  | some body =>
      pure (Script.ofDoc function.documentation ++ [.block function.header "" body])

/-- What goes into the header. -/
def declaration (function : FreeFunction) : Rendering := do
  function.validate
  if function.isConstexpr then function.render
  else pure (Script.ofDoc function.documentation ++ [.line (function.header ++ ";")])

/-- What goes into the source. -/
def definition (function : FreeFunction) : Rendering :=
  if function.isConstexpr then do
    function.validate
    pure []
  else function.render

/-- Write the function with its body. -/
def writeOwn (function : FreeFunction) : Procedure Unit := do
  require function.validate
  match function.body with
  | none => throw (.missingImplementation .function function.name)
  | some body =>
      document function.documentation
      block function.header "" body

/-- Write the function into the header. -/
def writeDeclaration (function : FreeFunction) : Procedure Unit := do
  require function.validate
  if function.isConstexpr then function.writeOwn
  else
    document function.documentation
    change (·.line (function.header ++ ";"))

/-- Write the function into the source. -/
def writeDefinition (function : FreeFunction) : Procedure Unit :=
  if function.isConstexpr then do
    require function.validate
    pure ()
  else function.writeOwn

end FreeFunction

end CppModel
