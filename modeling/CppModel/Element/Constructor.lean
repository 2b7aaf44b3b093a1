import CppModel.Element.Initializers
import CppModel.Element.Method

/-!
# Constructors

A constructor is a member function with a list of initializers, without a
return type and without modifiers.  A configuration may spell these out all the
same, so a constructor can carry them, and the first one is reported when it is
validated.
-/

namespace CppModel

/-- A constructor of a class. -/
structure Constructor extends Method where
  initializers : Initializers := default

namespace Constructor

open Declarator Procedure

/-- A constructor without arguments, initializers and body. -/
def ofName (name : String) : Constructor := { name := name }

/-- The constructor with one more argument. -/
def addArgument (constructor : Constructor) (argument : String) : Constructor :=
  { constructor with arguments := constructor.arguments ++ [argument] }

/-- The constructor with one more initializer. -/
def addInitializer (constructor : Constructor) (initializer : String) : Constructor :=
  { constructor with initializers := constructor.initializers.push initializer }

/-- The constructor with other initializers in place of all it had. -/
def withInitializers (constructor : Constructor) (list : List String) : Constructor :=
  { constructor with initializers := .known list }

/-- The constructor with initializers from a producer in place of all it had. -/
def withProducer (constructor : Constructor) (producer : Nat) : Constructor :=
  { constructor with initializers := .deferred producer [] }

/-- What a constructor may not be declared with. -/
def checkPlain (constructor : Constructor) : Except Error Unit :=
  match constructor.modifiers.toList with
  | modifier :: _ =>
      .error (.grammar .constructor constructor.name (.constructorModifier modifier))
  | [] =>
      if constructor.returnType.isSome then
        .error (.grammar .constructor constructor.name .constructorReturnType)
      else .ok ()

/-- A constructor carries nothing that belongs to other methods, and it has to
belong to a class. -/
def validate (context : Context) (constructor : Constructor) : Except Error Unit := do
  constructor.checkPlain
  constructor.toMethod.checkLink context .constructor

/-- The name of the constructor with every scope around it. -/
def fullName (context : Context) (constructor : Constructor) : String :=
  constructor.toMethod.fullName context

/-- The header of a constructor with its body, under the given name. -/
def headerAs (context : Context) (constructor : Constructor) (name : String) : String :=
  signature name constructor.arguments ++ constructor.initializers.clause context

/-- The constructor with its body, inside the class. -/
def render (context : Context) (constructor : Constructor) : Rendering := do
  constructor.validate context
  let body ← constructor.toMethod.requireBody .constructor
  pure (Script.ofDoc constructor.documentation ++
    [.block (constructor.headerAs context constructor.name) "" body])

/-- What goes into the class.  The initializers belong to the definition. -/
def declaration (context : Context) (constructor : Constructor) : Rendering := do
  constructor.validate context
  pure (Script.ofDoc constructor.documentation ++
    [.line (signature constructor.name constructor.arguments ++ ";")])

/-- What goes into the source. -/
def definition (context : Context) (constructor : Constructor) : Rendering := do
  constructor.validate context
  let body ← constructor.toMethod.requireBody .constructor
  pure (Script.ofDoc constructor.documentation ++
    [.block (constructor.headerAs context (constructor.fullName context)) "" body])

/-- Write the constructor with its body, inside the class. -/
def writeOwn (context : Context) (constructor : Constructor) : Procedure Unit := do
  require (constructor.validate context)
  let body ← require (constructor.toMethod.requireBody .constructor)
  document constructor.documentation
  block (constructor.headerAs context constructor.name) "" body

/-- Write the constructor into the class. -/
def writeDeclaration (context : Context) (constructor : Constructor) : Procedure Unit := do
  require (constructor.validate context)
  document constructor.documentation
  change (·.line (signature constructor.name constructor.arguments ++ ";"))

/-- Write the constructor into the source. -/
def writeDefinition (context : Context) (constructor : Constructor) : Procedure Unit := do
  require (constructor.validate context)
  let body ← require (constructor.toMethod.requireBody .constructor)
  document constructor.documentation
  block (constructor.headerAs context (constructor.fullName context)) "" body

end Constructor

end CppModel
