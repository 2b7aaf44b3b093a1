import CppModel.Element.Method

/-!
# Arrays

An array has a size, or items that give it one.  As a static member it is
declared without a size and defined with its items in the source.
-/

namespace CppModel

/-- An array or an array member. -/
structure ArrayVariable where
  name : String
  type : String
  link : Scope.Link := none
  isStatic : Bool := false
  isConst : Bool := false
  size : Option Nat := none
  items : List String := []
  documentation : Option String := none

namespace ArrayVariable

open Declarator Procedure

/-- An array without a size and without items. -/
def ofType (name type : String) : ArrayVariable := { name := name, type := type }

/-- The array with more items. -/
def addItems (array : ArrayVariable) (items : List String) : ArrayVariable :=
  { array with items := array.items ++ items }

/-- The array with one more item. -/
def addItem (array : ArrayVariable) (item : String) : ArrayVariable :=
  array.addItems [item]

/-- An array needs something that fixes its size. -/
def validate (array : ArrayVariable) : Except Error Unit :=
  if array.size.isNone && array.items.isEmpty then
    .error (.grammar .array array.name .unsizedArray)
  else .ok ()

/-- Whether the source has to define the array when it is a member. -/
def needsDefinition (array : ArrayVariable) : Bool :=
  array.isStatic

/-- The name of the array with every scope around it. -/
def fullName (context : Context) (array : ArrayVariable) : String :=
  context.scopes.qualifiedName array.link array.name scopeSeparator

/-- The size between the brackets, where it is given. -/
def sizeText (array : ArrayVariable) : String :=
  match array.size with
  | some size => toString size
  | none => ""

/-- The line of an array under a name, with its items. -/
def initializedLine (array : ArrayVariable) (head name : String) : String :=
  let start := head ++ " " ++ name ++ "[" ++ array.sizeText ++ "]"
  if array.items.isEmpty then start ++ ";"
  else start ++ " = \x7b" ++ ", ".intercalate array.items ++ "\x7d;"

/-- The array under a name, with its items. -/
def initialized (array : ArrayVariable) (head name : String) : Script :=
  Script.ofDoc array.documentation ++ [.line (array.initializedLine head name)]

/-- What stands in front of the name in a declaration. -/
def head (array : ArrayVariable) : String :=
  join [
    keyword array.isStatic Modifier.static.word,
    keyword array.isConst Modifier.const.word,
    array.type]

/-- What stands in front of the name in the source. -/
def outerHead (array : ArrayVariable) : String :=
  join [keyword array.isConst Modifier.const.word, array.type]

/-- The array as it stands outside of any class. -/
def render (array : ArrayVariable) : Rendering := do
  array.validate
  pure (array.initialized array.head array.name)

/-- The line of the class that declares the array: a static one without a size,
another one with its size or its number of items. -/
def memberLine (array : ArrayVariable) : String :=
  let size := if array.isStatic then "" else toString (array.size.getD array.items.length)
  array.head ++ " " ++ array.name ++ "[" ++ size ++ "];"

/-- What goes into the header. -/
def declaration (context : Context) (array : ArrayVariable) : Rendering :=
  if context.scopes.isAttached array.link then do
    array.validate
    pure (Script.ofDoc array.documentation ++ [.line array.memberLine])
  else array.render

/-- What goes into the source: a static member, and nothing else. -/
def definition (context : Context) (array : ArrayVariable) : Rendering := do
  array.validate
  if context.scopes.isAttached array.link && array.needsDefinition then
    pure (array.initialized array.outerHead (array.fullName context))
  else pure []

/-- Write the array under a name, with its items. -/
def writeInitialized (array : ArrayVariable) (head name : String) : Procedure Unit := do
  document array.documentation
  change (·.line (array.initializedLine head name))

/-- Write the array as it stands outside of any class. -/
def writeOwn (array : ArrayVariable) : Procedure Unit := do
  require array.validate
  array.writeInitialized array.head array.name

/-- Write the array into the header. -/
def writeDeclaration (context : Context) (array : ArrayVariable) : Procedure Unit :=
  if context.scopes.isAttached array.link then do
    require array.validate
    document array.documentation
    change (·.line array.memberLine)
  else array.writeOwn

/-- Write the array into the source. -/
def writeDefinition (context : Context) (array : ArrayVariable) : Procedure Unit := do
  require array.validate
  if context.scopes.isAttached array.link && array.needsDefinition then
    array.writeInitialized array.outerHead (array.fullName context)
  else pure ()

end ArrayVariable

end CppModel
