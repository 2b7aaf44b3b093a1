import CppModel.Config.Records
import CppModel.TranslationUnit

/-!
# Elements from configurations

Every configuration describes one element.  A configured body writes its lines,
and the members of a class are added in a fixed order: enumerations, nested
classes, constructors, methods, variables, arrays.
-/

namespace CppModel

open Config

/-- The body that writes the given lines. -/
def bodyOfLines (lines : Option (List String)) : Option Script :=
  lines.map Script.ofLines

/-- The function that a configuration describes. -/
def FreeFunction.ofConfig (config : FunctionConfig) : FreeFunction where
  name := config.name
  returnType := config.returnType
  isConstexpr := config.isConstexpr
  arguments := config.arguments
  body := bodyOfLines config.implementation
  documentation := config.documentation

/-- The method that a configuration describes. -/
def Method.ofConfig (config : MethodConfig) : Method where
  name := config.name
  returnType := config.returnType
  modifiers := config.modifiers
  arguments := config.arguments
  body := bodyOfLines config.implementation
  documentation := config.documentation

/-- The constructor that a configuration describes. -/
def Constructor.ofConfig (config : ConstructorConfig) : Constructor where
  name := config.name
  returnType := config.returnType
  modifiers := config.modifiers
  arguments := config.arguments
  body := bodyOfLines config.implementation
  documentation := config.documentation
  initializers := .known config.initializers

/-- The variable that a configuration describes. -/
def Variable.ofConfig (config : VariableConfig) : Variable where
  name := config.name
  type := config.type
  isStatic := config.isStatic
  isConst := config.isConst
  isConstexpr := config.isConstexpr
  isExtern := config.isExtern
  value := config.value
  documentation := config.documentation

/-- The array that a configuration describes. -/
def ArrayVariable.ofConfig (config : ArrayConfig) : ArrayVariable where
  name := config.name
  type := config.type
  isStatic := config.isStatic
  isConst := config.isConst
  size := config.size
  items := config.items
  documentation := config.documentation

/-- The enumeration that a configuration describes. -/
def Enumeration.ofConfig (config : EnumConfig) : Enumeration where
  name := config.name
  mark := config.mark.getD Enumeration.defaultMark
  isScoped := config.isScoped
  items := config.items
  documentation := config.documentation

namespace Class

/-- The class with enumerations added. -/
def addEnumerations (owner : Class) : List Enumeration → StateM Scope.Forest Class
  | [] => pure owner
  | enumeration :: rest => do
      let next ← owner.addEnumeration enumeration
      next.addEnumerations rest

/-- The class with member functions added. -/
def addFunctions (owner : Class) (functions : List MemberFunction) : Class :=
  functions.foldl addFunction owner

/-- The class with variables added. -/
def addVariables (owner : Class) (members : List Variable) : Class :=
  members.foldl addVariable owner

/-- The class with arrays added. -/
def addArrays (owner : Class) (arrays : List ArrayVariable) : Class :=
  arrays.foldl addArray owner

/-- The member functions that a configuration describes, constructors first. -/
def functionsOfConfig (options : ClassOptions) : List MemberFunction :=
  options.constructors.map (fun config => .constructor (.ofConfig config)) ++
    options.methods.map (fun config => .method (.ofConfig config))

/-- The class with the head that a configuration describes, without members. -/
def createOfConfig (options : ClassOptions) : StateM Scope.Forest Class := do
  let owner ← create options.name
  pure { owner with parts := { owner.parts with
      isStruct := options.isStruct
      base := options.base
      documentation := options.documentation } }

mutual

/-- The class that a configuration describes, with all its members. -/
def ofConfig : ClassConfig → StateM Scope.Forest Class
  | ⟨options, classes⟩ => do
      let owner ← createOfConfig options
      let owner ← owner.addEnumerations (options.enums.map .ofConfig)
      let owner ← addNestedOfConfig classes owner
      let owner := owner.addFunctions (functionsOfConfig options)
      let owner := owner.addVariables (options.dataMembers.map .ofConfig)
      pure (owner.addArrays (options.arrays.map .ofConfig))

/-- The class with the classes of a configuration nested in it. -/
def addNestedOfConfig : List ClassConfig → Class → StateM Scope.Forest Class
  | [], owner => pure owner
  | config :: rest, owner => do
      let inner ← ofConfig config
      let next ← owner.addClass inner
      addNestedOfConfig rest next

end

end Class

namespace TranslationUnit

/-- The unit with the classes of a configuration added. -/
def addClassesOfConfig (unit : TranslationUnit) :
    List ClassConfig → StateM Scope.Forest TranslationUnit
  | [] => pure unit
  | config :: rest => do
      let owner ← Class.ofConfig config
      (unit.add (.classType owner)).addClassesOfConfig rest

/-- The elements that a model describes: its functions, then its classes. -/
def ofConfig (config : ModelConfig) : StateM Scope.Forest TranslationUnit :=
  let functions := config.functions.map fun function => Element.function (.ofConfig function)
  TranslationUnit.addClassesOfConfig ⟨functions⟩ config.classes

end TranslationUnit

end CppModel
