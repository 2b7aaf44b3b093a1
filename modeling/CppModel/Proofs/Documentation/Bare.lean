import CppModel.TranslationUnit

/-!
# Elements without their documentation

An element of any kind may carry documentation, and it is still the same element when the
documentation is taken away.  The members of a class keep theirs.
-/

namespace CppModel

/-- The function without its documentation. -/
def FreeFunction.bare (function : FreeFunction) : FreeFunction :=
  { function with documentation := none }

/-- The method without its documentation. -/
def Method.bare (method : Method) : Method :=
  { method with documentation := none }

/-- The constructor without its documentation. -/
def Constructor.bare (constructor : Constructor) : Constructor :=
  { constructor with documentation := none }

namespace MemberFunction

/-- The documentation of the function. -/
def documentation : MemberFunction → Option String
  | .method content => content.documentation
  | .constructor content => content.documentation

/-- The function without its documentation. -/
def bare : MemberFunction → MemberFunction
  | .method content => .method content.bare
  | .constructor content => .constructor content.bare

end MemberFunction

/-- The variable without its documentation. -/
def Variable.bare (data : Variable) : Variable :=
  { data with documentation := none }

/-- The array without its documentation. -/
def ArrayVariable.bare (array : ArrayVariable) : ArrayVariable :=
  { array with documentation := none }

/-- The enumeration without its documentation. -/
def Enumeration.bare (enumeration : Enumeration) : Enumeration :=
  { enumeration with documentation := none }

/-- The class without its own documentation. -/
def ClassParts.bare (parts : ClassParts) : ClassParts :=
  { parts with documentation := none }

namespace Element

/-- The documentation of the element itself. -/
def documentation : Element → Option String
  | .function content => content.documentation
  | .member content => content.documentation
  | .data content => content.documentation
  | .array content => content.documentation
  | .enumeration content => content.documentation
  | .classType content => content.parts.documentation

/-- The element without its own documentation. -/
def bare : Element → Element
  | .function content => .function content.bare
  | .member content => .member content.bare
  | .data content => .data content.bare
  | .array content => .array content.bare
  | .enumeration content => .enumeration content.bare
  | .classType ⟨parts, nested⟩ => .classType ⟨parts.bare, nested⟩

end Element

end CppModel
