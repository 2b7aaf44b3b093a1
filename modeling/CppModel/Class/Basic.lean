import CppModel.Element.ArrayVariable
import CppModel.Element.Constructor
import CppModel.Element.Enumeration
import CppModel.Element.Variable

/-!
# Classes

A class is a named scope with members: enumerations, nested classes, member
functions, variables and arrays, each kind in the order in which it was added.
A class owns its members, while the members only hold a link to the scope of
the class, so that moving a class renames everything below it.

A nested class is added to the list of nested classes even if nesting its scope
is refused because it would close a circle.
-/

namespace CppModel

/-- A function that belongs to a class. -/
inductive MemberFunction
  | method (content : Method)
  | constructor (content : Constructor)

namespace MemberFunction

/-- The name of the function. -/
def name : MemberFunction → String
  | .method content => content.name
  | .constructor content => content.name

/-- The link of the function. -/
def link : MemberFunction → Scope.Link
  | .method content => content.link
  | .constructor content => content.link

/-- The function under another link. -/
def withLink (link : Scope.Link) : MemberFunction → MemberFunction
  | .method content => .method { content with link := link }
  | .constructor content => .constructor { content with link := link }

/-- The body of the function. -/
def body : MemberFunction → Option Script
  | .method content => content.body
  | .constructor content => content.body

/-- Whether the source has to define the function: a constructor always. -/
def needsDefinition : MemberFunction → Bool
  | .method content => content.needsDefinition
  | .constructor _ => true

/-- Check the function. -/
def validate (context : Context) : MemberFunction → Except Error Unit
  | .method content => content.validate context
  | .constructor content => content.validate context

/-- What goes into the class. -/
def declaration (context : Context) : MemberFunction → Rendering
  | .method content => content.declaration context
  | .constructor content => content.declaration context

/-- What goes into the source. -/
def definition (context : Context) : MemberFunction → Rendering
  | .method content => content.definition context
  | .constructor content => content.definition context

/-- Write the function with its body, inside the class. -/
def writeOwn (context : Context) : MemberFunction → Procedure Unit
  | .method content => content.writeOwn context
  | .constructor content => content.writeOwn context

/-- Write the function into the class. -/
def writeDeclaration (context : Context) : MemberFunction → Procedure Unit
  | .method content => content.writeDeclaration context
  | .constructor content => content.writeDeclaration context

/-- Write the function into the source. -/
def writeDefinition (context : Context) : MemberFunction → Procedure Unit
  | .method content => content.writeDefinition context
  | .constructor content => content.writeDefinition context

@[simp]
theorem link_withLink (target : Scope.Link) (function : MemberFunction) :
    (function.withLink target).link = target := by
  cases function <;> rfl

@[simp]
theorem name_withLink (target : Scope.Link) (function : MemberFunction) :
    (function.withLink target).name = function.name := by
  cases function <;> rfl

end MemberFunction

/-- A class without its nested classes. -/
structure ClassParts where
  /-- The scope of the class. -/
  scope : Scope.Id
  name : String
  isStruct : Bool := false
  /-- The class that this one publicly inherits from. -/
  base : Option String := none
  documentation : Option String := none
  enumerations : List Enumeration := []
  functions : List MemberFunction := []
  dataMembers : List Variable := []
  arrays : List ArrayVariable := []

/-- A class or a struct with all its members. -/
structure Class where
  parts : ClassParts
  /-- The nested classes, in order. -/
  nested : List Class

namespace Class

/-- A class without members in a scope of its own. -/
def create (name : String) : StateM Scope.Forest Class := do
  let scope ← modifyGet (·.create name)
  pure ⟨{ scope := scope, name := name }, []⟩

/-- The link that members of the class hold. -/
def memberLink (owner : Class) : Scope.Link := some owner.parts.scope

/-- The class with a member function added. -/
def addFunction (owner : Class) (function : MemberFunction) : Class :=
  { owner with parts := { owner.parts with
      functions := owner.parts.functions ++ [function.withLink owner.memberLink] } }

/-- The class with a variable added. -/
def addVariable (owner : Class) (data : Variable) : Class :=
  { owner with parts := { owner.parts with
      dataMembers := owner.parts.dataMembers ++ [{ data with link := owner.memberLink }] } }

/-- The class with an array added. -/
def addArray (owner : Class) (array : ArrayVariable) : Class :=
  { owner with parts := { owner.parts with
      arrays := owner.parts.arrays ++ [{ array with link := owner.memberLink }] } }

/-- The class with an enumeration added, whose name is declared as a type of
the class. -/
def addEnumeration (owner : Class) (enumeration : Enumeration) : StateM Scope.Forest Class := do
  modify (·.declareType owner.parts.scope enumeration.name)
  pure { owner with parts := { owner.parts with
      enumerations := owner.parts.enumerations ++
        [{ enumeration with link := owner.memberLink }] } }

/-- Nest the scope of a class under a link.  The answer says whether the link
was accepted. -/
def attach (inner : Class) (link : Scope.Link) : StateM Scope.Forest Bool :=
  modifyGet (·.attach inner.parts.scope link)

/-- The class with a nested class added, whose name is declared as a type of
the class. -/
def addClass (owner inner : Class) : StateM Scope.Forest Class := do
  modify (·.declareType owner.parts.scope inner.parts.name)
  let _ ← inner.attach owner.memberLink
  pure { owner with nested := owner.nested ++ [inner] }

/-- Whether there are members for the public section. -/
def hasPublic (owner : Class) : Bool :=
  !owner.parts.enumerations.isEmpty || !owner.nested.isEmpty || !owner.parts.functions.isEmpty

/-- Whether there are members for the private section. -/
def hasPrivate (owner : Class) : Bool :=
  !owner.parts.dataMembers.isEmpty || !owner.parts.arrays.isEmpty

mutual

/-- The scopes that a class owns: its own one and those of all classes inside
it.  They are dropped together with the class. -/
def scopes : Class → List Scope.Id
  | ⟨parts, nested⟩ => parts.scope :: scopesOfAll nested

/-- The scopes that the classes of a list own. -/
def scopesOfAll : List Class → List Scope.Id
  | [] => []
  | inner :: rest => scopes inner ++ scopesOfAll rest

end

end Class

end CppModel
