import CppModel.Grammar.Modifier

/-!
# Configurations

What can be said about an element in a model file.  Each record has the options
of one kind of element.  Methods and constructors share the flags of the
modifiers; a constructor accepts them so that they can be spelled out as false.
-/

namespace CppModel.Config

/-- The options of a free function. -/
structure FunctionConfig where
  name : String := ""
  returnType : Option String := none
  isConstexpr : Bool := false
  arguments : List String := []
  /-- The lines of the body. -/
  implementation : Option (List String) := none
  documentation : Option String := none
  deriving DecidableEq, Repr, Inhabited

/-- The options of a method. -/
structure MethodConfig where
  name : String := ""
  returnType : Option String := none
  modifiers : Modifiers := {}
  arguments : List String := []
  /-- The lines of the body. -/
  implementation : Option (List String) := none
  documentation : Option String := none
  deriving DecidableEq, Repr, Inhabited

/-- The options of a constructor. -/
structure ConstructorConfig where
  name : String := ""
  arguments : List String := []
  initializers : List String := []
  /-- The lines of the body. -/
  implementation : Option (List String) := none
  documentation : Option String := none
  returnType : Option String := none
  modifiers : Modifiers := {}
  deriving DecidableEq, Repr, Inhabited

/-- The options of a variable. -/
structure VariableConfig where
  name : String := ""
  type : String := ""
  isStatic : Bool := false
  isConst : Bool := false
  isConstexpr : Bool := false
  isExtern : Bool := false
  value : Option String := none
  documentation : Option String := none
  deriving DecidableEq, Repr, Inhabited

/-- The options of an array. -/
structure ArrayConfig where
  name : String := ""
  type : String := ""
  isStatic : Bool := false
  isConst : Bool := false
  size : Option Nat := none
  items : List String := []
  documentation : Option String := none
  deriving DecidableEq, Repr, Inhabited

/-- The options of an enumeration. -/
structure EnumConfig where
  name : String := ""
  /-- What stands in front of the name of every enumerator. -/
  mark : Option String := none
  isScoped : Bool := false
  items : List String := []
  documentation : Option String := none
  deriving DecidableEq, Repr, Inhabited

/-- The options of a class, nested classes apart. -/
structure ClassOptions where
  name : String := ""
  isStruct : Bool := false
  base : Option String := none
  documentation : Option String := none
  enums : List EnumConfig := []
  constructors : List ConstructorConfig := []
  methods : List MethodConfig := []
  dataMembers : List VariableConfig := []
  arrays : List ArrayConfig := []
  deriving DecidableEq, Repr, Inhabited

/-- The options of a class with all its members. -/
structure ClassConfig where
  options : ClassOptions
  /-- The nested classes, in order. -/
  classes : List ClassConfig

instance : Inhabited ClassConfig := ⟨⟨{}, []⟩⟩

/-- The functions and classes of a model file. -/
structure ModelConfig where
  functions : List FunctionConfig := []
  classes : List ClassConfig := []
  deriving Inhabited

end CppModel.Config
