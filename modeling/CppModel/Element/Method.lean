import CppModel.Grammar.Violation
import CppModel.Procedure
import CppModel.Scope.TypeName

/-!
# Methods

A member function.  Inside the class it is declared with all its modifiers;
outside it is defined under its full name, with the return type as it reads from
there and only those modifiers that belong to its type.
-/

namespace CppModel

/-- What stands between the names of nested scopes. -/
def scopeSeparator : String := "::"

/-- A member function of a class. -/
structure Method where
  name : String
  link : Scope.Link := none
  returnType : Option String := none
  modifiers : Modifiers := {}
  arguments : List String := []
  /-- What the body writes between the braces. -/
  body : Option Script := none
  documentation : Option String := none

namespace Method

open Declarator Procedure

/-- A method without arguments, modifiers and body. -/
def ofName (name : String) : Method := { name := name }

/-- The method with one more argument. -/
def addArgument (method : Method) (argument : String) : Method :=
  { method with arguments := method.arguments ++ [argument] }

/-- The method with a modifier set. -/
def withModifier (method : Method) (modifier : Modifier) : Method :=
  { method with modifiers := method.modifiers.set modifier true }

/-- The modifiers have to be legal together and with the body. -/
def checkModifiers (method : Method) : Except Error Unit :=
  match method.modifiers.check method.body.isSome with
  | .error violation => .error (.grammar .method method.name violation)
  | .ok () => .ok ()

/-- A member function has to belong to a scope. -/
def checkLink (context : Context) (kind : ElementKind) (method : Method) : Except Error Unit :=
  if context.scopes.isAttached method.link then .ok ()
  else .error (.orphan kind method.name)

/-- The modifiers have to be legal, and the method has to belong to a class. -/
def validate (context : Context) (method : Method) : Except Error Unit := do
  method.checkModifiers
  method.checkLink context .method

/-- Whether the source has to define the method. -/
def needsDefinition (method : Method) : Bool :=
  !method.modifiers.isPureVirtual && !method.modifiers.isConstexpr

/-- The name of the method with every scope around it. -/
def fullName (context : Context) (method : Method) : String :=
  context.scopes.qualifiedName method.link method.name scopeSeparator

/-- The header inside the class. -/
def header (method : Method) : String :=
  let modifiers := method.modifiers
  let text := join [
    keyword modifiers.isStatic Modifier.static.word,
    keyword modifiers.isConstexpr Modifier.constexpr.word,
    keyword modifiers.isVirtual Modifier.virtual.word,
    keyword modifiers.isInline Modifier.inline.word,
    method.returnType.getD "",
    signature method.name method.arguments,
    keyword modifiers.isConst Modifier.const.word,
    keyword modifiers.isOverride Modifier.override.word,
    keyword modifiers.isFinal Modifier.final.word]
  if modifiers.isPureVirtual then text ++ " = 0" else text

/-- The return type as it reads from outside the class. -/
def outerReturnType (context : Context) (method : Method) : String :=
  match method.returnType with
  | some type => context.scopes.resolveType method.link type scopeSeparator
  | none => ""

/-- The header outside the class. -/
def outerHeader (context : Context) (method : Method) : String :=
  join [method.outerReturnType context,
    signature (method.fullName context) method.arguments,
    keyword method.modifiers.isConst Modifier.const.word]

/-- The body, which has to be there. -/
def requireBody (kind : ElementKind) (method : Method) : Except Error Script :=
  match method.body with
  | some body => .ok body
  | none => .error (.missingImplementation kind method.name)

/-- The method with its body, inside the class. -/
def render (context : Context) (method : Method) : Rendering := do
  method.validate context
  let body ← method.requireBody .method
  pure (Script.ofDoc method.documentation ++ [.block method.header "" body])

/-- What goes into the class: the header, or with `constexpr` the whole
method. -/
def declaration (context : Context) (method : Method) : Rendering := do
  method.validate context
  if method.modifiers.isConstexpr then method.render context
  else pure (Script.ofDoc method.documentation ++ [.line (method.header ++ ";")])

/-- What goes into the source. -/
def definition (context : Context) (method : Method) : Rendering := do
  method.validate context
  if method.modifiers.isPureVirtual then throw (.pureVirtualDefinition method.name)
  let body ← method.requireBody .method
  pure (Script.ofDoc method.documentation ++ [.block (method.outerHeader context) "" body])

/-- Write the method with its body, inside the class. -/
def writeOwn (context : Context) (method : Method) : Procedure Unit := do
  require (method.validate context)
  let body ← require (method.requireBody .method)
  document method.documentation
  block method.header "" body

/-- Write the method into the class. -/
def writeDeclaration (context : Context) (method : Method) : Procedure Unit := do
  require (method.validate context)
  if method.modifiers.isConstexpr then method.writeOwn context
  else
    document method.documentation
    change (·.line (method.header ++ ";"))

/-- Write the method into the source. -/
def writeDefinition (context : Context) (method : Method) : Procedure Unit := do
  require (method.validate context)
  if method.modifiers.isPureVirtual then throw (.pureVirtualDefinition method.name)
  else
    let body ← require (method.requireBody .method)
    document method.documentation
    block (method.outerHeader context) "" body

end Method

end CppModel
