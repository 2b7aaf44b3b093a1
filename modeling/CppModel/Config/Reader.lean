import CppModel.Config.Records
import CppModel.Config.Schema
import CppModel.Error

/-!
# Reading configurations

The schema of every record, and with it the way in which the record is read
from a TOML value.  The order of the fields is the order in which messages list
them and in which a list gives them.

The schema of a class contains itself.  It is unrolled as often as the value
that is read has levels, since a nested class lies at least one level deeper
than the class around it.

An element is configured by a table of its own, and its faults are told of it.
-/

namespace CppModel.Config

open Toml (Value Table)

/-- A list of texts. -/
def readTexts : Value → Except Fault (List String) :=
  readList readText

/-- A flag that sets a modifier. -/
def modifierField {Record : Type} (name : String) (modifier : Modifier)
    (change : (Modifiers → Modifiers) → Record → Record) : Field Record :=
  .defaulted name readFlag fun flag => change (·.set modifier flag)

/-- The flags of the modifiers of a member function, in order. -/
def modifierFields {Record : Type} (change : (Modifiers → Modifiers) → Record → Record) :
    List (Field Record) :=
  [modifierField "is_static" .static change,
    modifierField "is_constexpr" .constexpr change,
    modifierField "is_virtual" .virtual change,
    modifierField "is_pure_virtual" .pureVirtual change,
    modifierField "is_const" .const change,
    modifierField "is_override" .override change,
    modifierField "is_final" .final change,
    modifierField "is_inline" .inline change]

/-- The form of a free function. -/
def FunctionConfig.schema : Schema FunctionConfig where
  name := "FunctionConfig"
  initial := {}
  fields := [
    .required "name" readText fun text config => { config with name := text },
    .optional "ret_type" readText fun text config => { config with returnType := text },
    .defaulted "is_constexpr" readFlag fun flag config => { config with isConstexpr := flag },
    .defaulted "arguments" readTexts fun texts config => { config with arguments := texts },
    .optional "implementation" readTexts fun texts config =>
      { config with implementation := texts },
    .optional "documentation" readText fun text config => { config with documentation := text }]

/-- The form of a method. -/
def MethodConfig.schema : Schema MethodConfig where
  name := "MethodConfig"
  initial := {}
  fields := [
    .required "name" readText fun text config => { config with name := text },
    .optional "ret_type" readText fun text config => { config with returnType := text }] ++
    modifierFields (fun change config => { config with modifiers := change config.modifiers }) ++ [
    .defaulted "arguments" readTexts fun texts config => { config with arguments := texts },
    .optional "implementation" readTexts fun texts config =>
      { config with implementation := texts },
    .optional "documentation" readText fun text config => { config with documentation := text }]

/-- The form of a constructor. -/
def ConstructorConfig.schema : Schema ConstructorConfig where
  name := "ConstructorConfig"
  initial := {}
  fields := [
    .required "name" readText fun text config => { config with name := text },
    .defaulted "arguments" readTexts fun texts config => { config with arguments := texts },
    .defaulted "initializers" readTexts fun texts config => { config with initializers := texts },
    .optional "implementation" readTexts fun texts config =>
      { config with implementation := texts },
    .optional "documentation" readText fun text config => { config with documentation := text },
    .optional "ret_type" readText fun text config => { config with returnType := text }] ++
    modifierFields (fun change config => { config with modifiers := change config.modifiers })

/-- The form of a variable. -/
def VariableConfig.schema : Schema VariableConfig where
  name := "VariableConfig"
  initial := {}
  fields := [
    .required "name" readText fun text config => { config with name := text },
    .required "type" readText fun text config => { config with type := text },
    .defaulted "is_static" readFlag fun flag config => { config with isStatic := flag },
    .defaulted "is_const" readFlag fun flag config => { config with isConst := flag },
    .defaulted "is_constexpr" readFlag fun flag config => { config with isConstexpr := flag },
    .defaulted "is_extern" readFlag fun flag config => { config with isExtern := flag },
    .optional "value" readText fun text config => { config with value := text },
    .optional "documentation" readText fun text config => { config with documentation := text }]

/-- The form of an array. -/
def ArrayConfig.schema : Schema ArrayConfig where
  name := "ArrayConfig"
  initial := {}
  fields := [
    .required "name" readText fun text config => { config with name := text },
    .required "type" readText fun text config => { config with type := text },
    .defaulted "is_static" readFlag fun flag config => { config with isStatic := flag },
    .defaulted "is_const" readFlag fun flag config => { config with isConst := flag },
    .optional "size" readSize fun size config => { config with size := size },
    .defaulted "items" readTexts fun texts config => { config with items := texts },
    .optional "documentation" readText fun text config => { config with documentation := text }]

/-- The form of an enumeration. -/
def EnumConfig.schema : Schema EnumConfig where
  name := "EnumConfig"
  initial := {}
  fields := [
    .required "name" readText fun text config => { config with name := text },
    .optional "prefix" readText fun text config => { config with mark := text },
    .defaulted "enum_class" readFlag fun flag config => { config with isScoped := flag },
    .defaulted "items" readTexts fun texts config => { config with items := texts },
    .optional "documentation" readText fun text config => { config with documentation := text }]

namespace ClassConfig

/-- A class with changed options. -/
def withOptions (change : ClassOptions → ClassOptions) (config : ClassConfig) : ClassConfig :=
  { config with options := change config.options }

/-- The form of a class, given how a nested class is read. -/
def schema (surplus : Surplus) (readNested : Value → Except Fault ClassConfig) :
    Schema ClassConfig where
  name := "ClassConfig"
  initial := default
  fields := [
    .required "name" readText fun text => withOptions ({ · with name := text }),
    .defaulted "is_struct" readFlag fun flag => withOptions ({ · with isStruct := flag }),
    .optional "parent_class" readText fun text => withOptions ({ · with base := text }),
    .optional "documentation" readText fun text => withOptions ({ · with documentation := text }),
    .defaulted "enums" (readList (EnumConfig.schema.read surplus)) fun enums =>
      withOptions ({ · with enums := enums }),
    .defaulted "classes" (readList readNested) fun classes config =>
      { config with classes := classes },
    .defaulted "constructors" (readList (ConstructorConfig.schema.read surplus)) fun constructors =>
      withOptions ({ · with constructors := constructors }),
    .defaulted "methods" (readList (MethodConfig.schema.read surplus)) fun methods =>
      withOptions ({ · with methods := methods }),
    .defaulted "variables" (readList (VariableConfig.schema.read surplus)) fun members =>
      withOptions ({ · with dataMembers := members }),
    .defaulted "arrays" (readList (ArrayConfig.schema.read surplus)) fun arrays =>
      withOptions ({ · with arrays := arrays })]

/-- Read a class from a value of at most the given depth. -/
def readWithin (surplus : Surplus) : Nat → Value → Except Fault ClassConfig
  | 0, value => .error (mismatch value (.record "ClassConfig"))
  | depth + 1, value => (schema surplus (readWithin surplus depth)).read surplus value

/-- Read a class. -/
def read (surplus : Surplus) (value : Value) : Except Fault ClassConfig :=
  readWithin surplus value.depth value

/-- Read a class from the entries of a table. -/
def readTable (entries : Table) : Except Fault ClassConfig :=
  read .refused (.table entries)

end ClassConfig

/-- The form of a model file, whose lists may be longer than their records. -/
def ModelConfig.schema : Schema ModelConfig where
  name := "Model"
  initial := {}
  fields := [
    .defaulted "functions" (readList (FunctionConfig.schema.read .ignored)) fun functions config =>
      { config with functions := functions },
    .defaulted "classes" (readList (ClassConfig.read .ignored)) fun classes config =>
      { config with classes := classes }]

/-! ## Configuring one element -/

/-- Read the configuration of an element from the entries of a table.  A fault,
however deep, is told of the element. -/
def configure {Configuration : Type} (kind : ElementKind)
    (readTable : Table → Except Fault Configuration) (entries : Table) :
    Except Error Configuration :=
  (readTable entries).mapError (.misconfigured kind)

/-- Configure a function from a table. -/
def FunctionConfig.fromTable : Table → Except Error FunctionConfig :=
  configure .function FunctionConfig.schema.readTable

/-- Configure a method from a table. -/
def MethodConfig.fromTable : Table → Except Error MethodConfig :=
  configure .method MethodConfig.schema.readTable

/-- Configure a constructor from a table. -/
def ConstructorConfig.fromTable : Table → Except Error ConstructorConfig :=
  configure .constructor ConstructorConfig.schema.readTable

/-- Configure a variable from a table. -/
def VariableConfig.fromTable : Table → Except Error VariableConfig :=
  configure .dataVariable VariableConfig.schema.readTable

/-- Configure an array from a table. -/
def ArrayConfig.fromTable : Table → Except Error ArrayConfig :=
  configure .array ArrayConfig.schema.readTable

/-- Configure an enumeration from a table. -/
def EnumConfig.fromTable : Table → Except Error EnumConfig :=
  configure .enumeration EnumConfig.schema.readTable

/-- Configure a class from a table, with all that is inside. -/
def ClassConfig.fromTable : Table → Except Error ClassConfig :=
  configure .classType ClassConfig.readTable

end CppModel.Config
