import CppModel.Class.Rendering

/-!
# Writing classes

A class is declared on a fork: a member that fails behind others that were already
written leaves a block open there, and the fork is thrown away.  The definitions are
collected in chunks, those of nested classes behind those of the class around them, and
joined at the end.
-/

namespace CppModel

open Procedure Process

namespace ClassParts

/-- The definitions of the members that need one, nested classes apart. -/
def definitionProcedures (context : Context) (parts : ClassParts) : List (Procedure Unit) :=
  (parts.dataMembers.filter (·.needsDefinition)).map (·.writeDefinition context) ++
    (parts.arrays.filter (·.needsDefinition)).map (·.writeDefinition context) ++
    (parts.functions.filter (·.needsDefinition)).map (·.writeDefinition context)

end ClassParts

namespace Class

/-- Write a label where there is one. -/
def writeLabel (labelled : Bool) (label : String) : Procedure Unit :=
  if labelled then change (·.label label) else pure ()

/-- Write a section of a class under its label, if there is one. -/
def writeSection (present labelled : Bool) (label : String) (part : Procedure Unit) :
    Procedure Unit :=
  if present then do
    writeLabel labelled label
    part
  else pure ()

/-- Write what stands between the braces of a class, given how its two sections are
written. -/
def writeMembers (owner : Class) (publicPart privatePart : Procedure Unit) : Procedure Unit := do
  writeSection owner.hasPublic (!owner.parts.isStruct) "public" publicPart
  writeSection owner.hasPrivate (!owner.parts.isStruct && owner.hasPublic) "private" privatePart

/-- Write the variables and the arrays of a class. -/
def writePrivate (context : Context) (parts : ClassParts) : Procedure Unit := do
  each (parts.dataMembers.map (·.writeDeclaration context))
  each (parts.arrays.map (·.writeDeclaration context))

mutual

/-- Write the class into a header. -/
def writeDeclaration (context : Context) : Class → Procedure Unit
  | ⟨parts, nested⟩ => do
      require (validate context ⟨parts, nested⟩)
      whole do
        document parts.documentation
        tryBlock parts.header ";" (writeMembers ⟨parts, nested⟩
          (do
            each (parts.enumerations.map (·.writeOwn))
            writeNestedDeclarations context nested
            each (parts.functions.map (·.writeDeclaration context)))
          (writePrivate context parts))

/-- Write the classes of a list into a header. -/
def writeNestedDeclarations (context : Context) : List Class → Procedure Unit
  | [] => pure ()
  | inner :: rest => do
      writeDeclaration context inner
      writeNestedDeclarations context rest

end

mutual

/-- Collect the definitions of a class. -/
def collectDefinitions (context : Context) (template : Sink) : Class → Collector Unit
  | ⟨parts, nested⟩ => do
      Collector.collectEach template (parts.definitionProcedures context)
      collectNested context template nested

/-- Collect the definitions of a list of classes. -/
def collectNested (context : Context) (template : Sink) : List Class → Collector Unit
  | [] => pure ()
  | inner :: rest => do
      collectDefinitions context template inner
      collectNested context template rest

end

/-- Write the definitions of the class into a source. -/
def writeDefinition (context : Context) (owner : Class) : Procedure Unit := do
  require (owner.validate context)
  let out ← get
  match (owner.collectDefinitions context out).runOn [] with
  | (chunks, .ok ()) => change (·.append (Collector.join out.fork 0 chunks))
  | (_, .error error) => throw error

/-- Write the declaration, and behind a blank line the definitions, if there are any. -/
def writeOwn (context : Context) (owner : Class) : Procedure Unit := do
  let out ← get
  let rendered ← onFork out (owner.writeDeclaration context)
  let definitions ← onFork out (owner.writeDefinition context)
  change (·.append
    (if definitions.isEmpty then rendered else rendered.blank.append definitions))

end Class

end CppModel
