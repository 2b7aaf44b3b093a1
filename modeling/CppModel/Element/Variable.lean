import CppModel.Element.Method

/-!
# Variables

A variable stands for itself outside of any class.  As a member it is declared
in the class; a static member that is not `constexpr` is defined in the source,
and its value goes there.
-/

namespace CppModel

/-- A variable or a data member. -/
structure Variable where
  name : String
  type : String
  link : Scope.Link := none
  isStatic : Bool := false
  isConst : Bool := false
  isConstexpr : Bool := false
  isExtern : Bool := false
  value : Option String := none
  documentation : Option String := none

namespace Variable

open Declarator Procedure

/-- A variable without a value. -/
def ofType (name type : String) : Variable := { name := name, type := type }

/-- The first rule that the variable breaks. -/
def violation? (data : Variable) : Option Violation :=
  if data.isConstexpr && data.value.isNone then some .constexprWithoutValue
  else if data.isExtern && data.value.isSome then some .externalWithValue
  else if data.isExtern && data.isStatic then some (.conflict .external .static)
  else if data.isExtern && data.isConstexpr then some (.conflict .external .constexpr)
  else none

/-- A variable has to obey the rules on values and on linkage. -/
def validate (data : Variable) : Except Error Unit :=
  match data.violation? with
  | some violation => .error (.grammar .dataVariable data.name violation)
  | none => .ok ()

/-- Whether the source has to define the variable when it is a member. -/
def needsDefinition (data : Variable) : Bool :=
  data.isStatic && !data.isConstexpr

/-- The name of the variable with every scope around it. -/
def fullName (context : Context) (data : Variable) : String :=
  context.scopes.qualifiedName data.link data.name scopeSeparator

/-- The line that declares a variable, with a value if there is one. -/
def lineOf (head : String) (value : Option String) : String :=
  match value with
  | some value => head ++ " = " ++ value ++ ";"
  | none => head ++ ";"

/-- The variable with a head and a value. -/
def written (data : Variable) (head : String) (value : Option String) : Script :=
  Script.ofDoc data.documentation ++ [.line (lineOf head value)]

/-- What stands in front of the value outside of any class. -/
def freeHead (data : Variable) : String :=
  join [
    keyword data.isStatic Modifier.static.word,
    keyword data.isExtern Modifier.external.word,
    keyword data.isConstexpr Modifier.constexpr.word,
    keyword data.isConst Modifier.const.word,
    data.type, data.name]

/-- What stands in front of the value inside a class. -/
def memberHead (data : Variable) : String :=
  join [
    keyword data.isStatic Modifier.static.word,
    keyword data.isConstexpr Modifier.constexpr.word,
    keyword data.isConst Modifier.const.word,
    data.type, data.name]

/-- What stands in front of the value in the source, where the type is named as
it reads from outside the class. -/
def outerHead (context : Context) (data : Variable) : String :=
  join [
    keyword data.isConst Modifier.const.word,
    context.scopes.resolveType data.link data.type scopeSeparator,
    data.fullName context]

/-- The value that the declaration in a class shows. -/
def memberValue (data : Variable) : Option String :=
  if data.needsDefinition then none else data.value

/-- The variable as it stands outside of any class. -/
def render (data : Variable) : Rendering := do
  data.validate
  pure (data.written data.freeHead data.value)

/-- What goes into the header. -/
def declaration (context : Context) (data : Variable) : Rendering :=
  if context.scopes.isAttached data.link then do
    data.validate
    pure (data.written data.memberHead data.memberValue)
  else data.render

/-- What goes into the source: a static member that needs it, and nothing
else. -/
def definition (context : Context) (data : Variable) : Rendering := do
  data.validate
  if context.scopes.isAttached data.link && data.needsDefinition then
    pure (data.written (data.outerHead context) data.value)
  else pure []

/-- Write the variable with a head and a value. -/
def writeLine (data : Variable) (head : String) (value : Option String) : Procedure Unit := do
  document data.documentation
  change (·.line (lineOf head value))

/-- Write the variable as it stands outside of any class. -/
def writeOwn (data : Variable) : Procedure Unit := do
  require data.validate
  data.writeLine data.freeHead data.value

/-- Write the variable into the header. -/
def writeDeclaration (context : Context) (data : Variable) : Procedure Unit :=
  if context.scopes.isAttached data.link then do
    require data.validate
    data.writeLine data.memberHead data.memberValue
  else data.writeOwn

/-- Write the variable into the source. -/
def writeDefinition (context : Context) (data : Variable) : Procedure Unit := do
  require data.validate
  if context.scopes.isAttached data.link && data.needsDefinition then
    data.writeLine (data.outerHead context) data.value
  else pure ()

end Variable

end CppModel
