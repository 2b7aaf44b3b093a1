import CppModel.Class.Basic

/-!
# Rendering classes

The declaration of a class goes into the header: its public members under a
label `public:`, then its private members under a label `private:`.  The
definitions go into the source: static data, member functions, and then the
definitions of the nested classes, with a blank line between any two.

A class is valid when all its members are.  Rendering checks this first, so
that nothing is written of a class with a broken member.
-/

namespace CppModel

/-- Check a list of elements up to the first error. -/
def validateAll {Item : Type} (validate : Item → Except Error Unit) :
    List Item → Except Error Unit
  | [] => .ok ()
  | item :: rest => do
      validate item
      validateAll validate rest

namespace ClassParts

/-- Check the members behind the nested classes. -/
def validate (context : Context) (parts : ClassParts) : Except Error Unit := do
  validateAll (·.validate context) parts.functions
  validateAll Variable.validate parts.dataMembers
  validateAll ArrayVariable.validate parts.arrays

/-- The first line of the class. -/
def header (parts : ClassParts) : String :=
  let keyword := if parts.isStruct then "struct " else "class "
  match parts.base with
  | some base => keyword ++ parts.name ++ " : public " ++ base
  | none => keyword ++ parts.name

/-- The declarations of the private members. -/
def privateDeclarations (context : Context) (parts : ClassParts) : List Rendering :=
  parts.dataMembers.map (·.declaration context) ++ parts.arrays.map (·.declaration context)

/-- The definitions of the members that need one, nested classes apart. -/
def definitions (context : Context) (parts : ClassParts) : List Rendering :=
  (parts.dataMembers.filter (·.needsDefinition)).map (·.definition context) ++
    (parts.arrays.filter (·.needsDefinition)).map (·.definition context) ++
    (parts.functions.filter (·.needsDefinition)).map (·.definition context)

end ClassParts

namespace Class

mutual

/-- Check every member, those of nested classes included. -/
def validate (context : Context) : Class → Except Error Unit
  | ⟨parts, nested⟩ => do
      validateNested context nested
      parts.validate context

/-- Check every class of a list. -/
def validateNested (context : Context) : List Class → Except Error Unit
  | [] => .ok ()
  | inner :: rest => do
      validate context inner
      validateNested context rest

end

/-- What stands between the braces of a class.  A struct has no labels, since
its members are public by default; a class needs `private:` only behind a
public section, since its members are private by default. -/
def body (owner : Class) (publicPart privatePart : Script) : Script :=
  let isLabelled := !owner.parts.isStruct
  (if owner.hasPublic then (if isLabelled then [.label "public"] else []) ++ publicPart else []) ++
    if owner.hasPrivate then
      (if isLabelled && owner.hasPublic then [.label "private"] else []) ++ privatePart
    else []

/-- The class around its members, written as a whole. -/
def frame (owner : Class) (publicPart privatePart : Script) : Script :=
  [.fork (Script.ofDoc owner.parts.documentation ++
    [.block owner.parts.header ";" (owner.body publicPart privatePart)]) true]

mutual

/-- What goes into the header. -/
def declaration (context : Context) : Class → Rendering
  | ⟨parts, nested⟩ => do
      validate context ⟨parts, nested⟩
      let publicPart ← Rendering.all
        (parts.enumerations.map (·.declaration) ++ nestedDeclarations context nested ++
          parts.functions.map (·.declaration context))
      let privatePart ← Rendering.all (parts.privateDeclarations context)
      pure (frame ⟨parts, nested⟩ publicPart.flatten privatePart.flatten)

/-- The declarations of a list of classes. -/
def nestedDeclarations (context : Context) : List Class → List Rendering
  | [] => []
  | inner :: rest => declaration context inner :: nestedDeclarations context rest

end

/-- The declarations of the public members. -/
def publicDeclarations (context : Context) (owner : Class) : List Rendering :=
  owner.parts.enumerations.map (·.declaration) ++ nestedDeclarations context owner.nested ++
    owner.parts.functions.map (·.declaration context)

/-- The declarations of the private members. -/
def privateDeclarations (context : Context) (owner : Class) : List Rendering :=
  owner.parts.privateDeclarations context

mutual

/-- Every definition outside of the class, in the order of the source: those of
the members, then those of the nested classes. -/
def definitions (context : Context) : Class → List Rendering
  | ⟨parts, nested⟩ => parts.definitions context ++ nestedDefinitions context nested

/-- The definitions of a list of classes. -/
def nestedDefinitions (context : Context) : List Class → List Rendering
  | [] => []
  | inner :: rest => definitions context inner ++ nestedDefinitions context rest

end

/-- What goes into the source. -/
def definition (context : Context) (owner : Class) : Rendering := do
  owner.validate context
  Rendering.paragraphs (owner.definitions context)

/-- The declaration, and behind a blank line the definitions, if there are
any. -/
def render (context : Context) (owner : Class) : Rendering :=
  Rendering.paragraphs [owner.declaration context, owner.definition context]

/-- The name of the class with every scope around it. -/
def fullName (context : Context) (owner : Class) : String :=
  context.scopes.qualifiedName (context.scopes.parent owner.parts.scope) owner.parts.name
    scopeSeparator

end Class

end CppModel
