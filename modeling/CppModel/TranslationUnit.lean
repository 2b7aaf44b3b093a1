import CppModel.Class.Writing
import CppModel.Element.FreeFunction

/-!
# Translation units

A translation unit lists elements of any kind and makes a header and a source
of them: the header from what each element declares, the source from what it
defines.  Elements that contribute nothing leave no trace, and a blank line
stands between any two that contribute something.

A unit writes each of its elements to a fork and joins the forks that are not
empty on another one, which is appended when all elements are complete.
-/

namespace CppModel

open Procedure Process

/-- The forms in which an element is rendered. -/
inductive Form
  | declaration
  | definition
  /-- The element as it stands alone. -/
  | own
  deriving DecidableEq, Repr

/-- The texts that a unit is rendered to. -/
inductive Side
  | header
  | source
  deriving DecidableEq, Repr

/-- The form in which the elements of a unit appear on a side. -/
def Side.form : Side → Form
  | .header => .declaration
  | .source => .definition

/-- An element of any kind. -/
inductive Element
  | function (content : FreeFunction)
  | member (content : MemberFunction)
  | data (content : Variable)
  | array (content : ArrayVariable)
  | enumeration (content : Enumeration)
  | classType (content : Class)

namespace Element

/-- The name of an element, without the scopes around it. -/
def name : Element → String
  | .function content => content.name
  | .member content => content.name
  | .data content => content.name
  | .array content => content.name
  | .enumeration content => content.name
  | .classType content => content.parts.name

/-- The link to the scope that an element lies in.  That of a class is held by
its scope. -/
def link (scopes : Scope.Forest) : Element → Scope.Link
  | .function content => content.link
  | .member content => content.link
  | .data content => content.link
  | .array content => content.link
  | .enumeration content => content.link
  | .classType content => scopes.parent content.parts.scope

/-- Put an element under a link.  A class keeps its place if the link is
refused. -/
def attach (link : Scope.Link) : Element → StateM Scope.Forest Element
  | .function content => pure (.function { content with link := link })
  | .member content => pure (.member (content.withLink link))
  | .data content => pure (.data { content with link := link })
  | .array content => pure (.array { content with link := link })
  | .enumeration content => pure (.enumeration { content with link := link })
  | .classType content => do
      let _ ← content.attach link
      pure (.classType content)

/-- The name of an element with every scope around it. -/
def qualifiedName (scopes : Scope.Forest) (separator : String) (element : Element) : String :=
  scopes.qualifiedName (element.link scopes) element.name separator

/-- The name of an element with every scope around it, as it is written. -/
def fullName (context : Context) (element : Element) : String :=
  element.qualifiedName context.scopes scopeSeparator

/-- Check an element. -/
def validate (context : Context) : Element → Except Error Unit
  | .function content => content.validate
  | .member content => content.validate context
  | .data content => content.validate
  | .array content => content.validate
  | .enumeration _ => .ok ()
  | .classType content => content.validate context

/-- What goes into the header. -/
def declaration (context : Context) : Element → Rendering
  | .function content => content.declaration
  | .member content => content.declaration context
  | .data content => content.declaration context
  | .array content => content.declaration context
  | .enumeration content => content.declaration
  | .classType content => content.declaration context

/-- What goes into the source. -/
def definition (context : Context) : Element → Rendering
  | .function content => content.definition
  | .member content => content.definition context
  | .data content => content.definition context
  | .array content => content.definition context
  | .enumeration content => content.definition
  | .classType content => content.definition context

/-- The element as it stands alone, in the form that is its own. -/
def render (context : Context) : Element → Rendering
  | .function content => content.render
  | .member (.method content) => content.render context
  | .member (.constructor content) => content.render context
  | .data content => content.render
  | .array content => content.render
  | .enumeration content => content.render
  | .classType content => content.render context

/-- An element in one of its forms. -/
def rendering (context : Context) (element : Element) : Form → Rendering
  | .declaration => element.declaration context
  | .definition => element.definition context
  | .own => element.render context

/-- Write an element in one of its forms. -/
def write (context : Context) : Element → Form → Procedure Unit
  | .function content, .declaration => content.writeDeclaration
  | .function content, .definition => content.writeDefinition
  | .function content, .own => content.writeOwn
  | .member content, .declaration => content.writeDeclaration context
  | .member content, .definition => content.writeDefinition context
  | .member content, .own => content.writeOwn context
  | .data content, .declaration => content.writeDeclaration context
  | .data content, .definition => content.writeDefinition context
  | .data content, .own => content.writeOwn
  | .array content, .declaration => content.writeDeclaration context
  | .array content, .definition => content.writeDefinition context
  | .array content, .own => content.writeOwn
  | .enumeration content, .declaration => content.writeOwn
  | .enumeration _, .definition => pure ()
  | .enumeration content, .own => content.writeOwn
  | .classType content, .declaration => content.writeDeclaration context
  | .classType content, .definition => content.writeDefinition context
  | .classType content, .own => content.writeOwn context

/-- The scopes that an element owns. -/
def scopes : Element → List Scope.Id
  | .classType content => content.scopes
  | _ => []

end Element

/-- Elements that make up a header and a source. -/
structure TranslationUnit where
  items : List Element := []

namespace TranslationUnit

/-- A unit without elements. -/
def empty : TranslationUnit := {}

/-- The unit with one more element. -/
def add (unit : TranslationUnit) (element : Element) : TranslationUnit :=
  { unit with items := unit.items ++ [element] }

/-- The number of elements. -/
def size (unit : TranslationUnit) : Nat := unit.items.length

/-- Check every element. -/
def validate (context : Context) (unit : TranslationUnit) : Except Error Unit :=
  validateAll (·.validate context) unit.items

/-- The text of the header. -/
def header (context : Context) (unit : TranslationUnit) : Rendering := do
  unit.validate context
  Rendering.paragraphs (unit.items.map (·.declaration context))

/-- The text of the source. -/
def source (context : Context) (unit : TranslationUnit) : Rendering := do
  unit.validate context
  Rendering.paragraphs (unit.items.map (·.definition context))

/-- A unit on one of its sides. -/
def rendering (context : Context) (unit : TranslationUnit) : Side → Rendering
  | .header => unit.header context
  | .source => unit.source context

/-- Put a chunk behind what has been joined, with a blank line between two that are not
empty. -/
def joinChunk (joined chunk : Sink) : Sink :=
  if chunk.isEmpty then joined
  else (if joined.isEmpty then joined else joined.blank).append chunk

/-- Write items one after another, each to a fork of `out`, and join them. -/
def joinItems (out : Sink) : List (Procedure Unit) → Procedure Unit
  | [] => pure ()
  | item :: rest => do
      let chunk ← onFork out item
      change (joinChunk · chunk)
      joinItems out rest

/-- Write a unit on one of its sides. -/
def write (context : Context) (unit : TranslationUnit) (side : Side) : Procedure Unit := do
  require (unit.validate context)
  let out ← get
  whole (joinItems out (unit.items.map (·.write context side.form)))

/-- The scopes that the elements own. -/
def scopes (unit : TranslationUnit) : List Scope.Id :=
  unit.items.flatMap (·.scopes)

end TranslationUnit

end CppModel
