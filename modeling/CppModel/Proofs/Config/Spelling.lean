import CppModel.Config.Reader
import Mathlib.Data.List.Forall2

/-!
# How configurations are spelled

What a document may write for a configuration, said without reading it.  A configuration is
spelled by a table that gives its options under their names, in any order, or by a list that
gives them one after another.  An option that is not there is left out of a table.  One that
has its default may be left out of a table, and at the end of a list.

A class contains configurations of other kinds, and of its own.  Each of them may be spelled
in either way.
-/

namespace CppModel.Config

open Toml (Value Table)

/-! ## Options -/

/-- What a document writes for one option of a configuration. -/
structure Part where
  name : String
  /-- The values that stand for the option. -/
  IsSpelled : Value → Prop
  /-- Whether a table may leave the option out. -/
  IsOmittable : Prop
  /-- Whether a list may end before the option. -/
  IsDroppable : Prop

namespace Part

/-- An option that every configuration has. -/
def required (name : String) (isSpelled : Value → Prop) : Part :=
  ⟨name, isSpelled, False, False⟩

/-- An option that may be absent.  There is no value that stands for nothing. -/
def optional {Content : Type} (name : String) (content : Option Content)
    (spells : Content → Value → Prop) : Part :=
  ⟨name, fun value => ∃ present, content = some present ∧ spells present value,
    content = none, False⟩

/-- An option with a standard content. -/
def defaulted {Content : Type} (name : String) (content standard : Content)
    (isSpelled : Value → Prop) : Part :=
  ⟨name, isSpelled, content = standard, content = standard⟩

end Part

/-! ## Values -/

/-- The value is the text. -/
def SpellsText (text : String) (value : Value) : Prop :=
  value = .string text

/-- The value is the flag. -/
def SpellsFlag (flag : Bool) (value : Value) : Prop :=
  value = .boolean flag

/-- The value is the number. -/
def SpellsSize (size : Nat) (value : Value) : Prop :=
  value = .integer size

/-- The value is a list that spells the items in order. -/
def SpellsList {Item : Type} (spells : Item → Value → Prop) (items : List Item)
    (value : Value) : Prop :=
  ∃ values, value = .list values ∧ List.Forall₂ spells items values

/-- The value is a list of the texts in order. -/
def SpellsTexts : List String → Value → Prop :=
  SpellsList SpellsText

/-- The value spells a configuration with the given options. -/
inductive SpellsRecord : List Part → Value → Prop
  /-- The options stand in a table, each under its name. -/
  | table {parts : List Part} {entries : Table}
      (distinct : (entries.map (·.1)).Nodup)
      (spelled : ∀ entry ∈ entries, ∃ part ∈ parts, part.name = entry.1 ∧ part.IsSpelled entry.2)
      (complete : ∀ part ∈ parts, part.name ∈ entries.map (·.1) ∨ part.IsOmittable) :
      SpellsRecord parts (.table entries)
  /-- The options stand in a list, in order and up to one of them. -/
  | list {given dropped : List Part} {values : List Value}
      (spelled : List.Forall₂ Part.IsSpelled given values)
      (droppable : ∀ part ∈ dropped, part.IsDroppable) :
      SpellsRecord (given ++ dropped) (.list values)

/-! ## Configurations -/

/-- The flags of a member function. -/
def modifierParts (modifiers : Modifiers) : List Part :=
  [.defaulted "is_static" modifiers.isStatic false (SpellsFlag modifiers.isStatic),
    .defaulted "is_constexpr" modifiers.isConstexpr false (SpellsFlag modifiers.isConstexpr),
    .defaulted "is_virtual" modifiers.isVirtual false (SpellsFlag modifiers.isVirtual),
    .defaulted "is_pure_virtual" modifiers.isPureVirtual false
      (SpellsFlag modifiers.isPureVirtual),
    .defaulted "is_const" modifiers.isConst false (SpellsFlag modifiers.isConst),
    .defaulted "is_override" modifiers.isOverride false (SpellsFlag modifiers.isOverride),
    .defaulted "is_final" modifiers.isFinal false (SpellsFlag modifiers.isFinal),
    .defaulted "is_inline" modifiers.isInline false (SpellsFlag modifiers.isInline)]

/-- The options of a method, in the order of a list. -/
def MethodConfig.parts (config : MethodConfig) : List Part :=
  [.required "name" (SpellsText config.name),
    .optional "ret_type" config.returnType SpellsText] ++
  modifierParts config.modifiers ++
  [.defaulted "arguments" config.arguments [] (SpellsTexts config.arguments),
    .optional "implementation" config.implementation SpellsTexts,
    .optional "documentation" config.documentation SpellsText]

/-- The options of a constructor.  Those that only a method may set come last. -/
def ConstructorConfig.parts (config : ConstructorConfig) : List Part :=
  [.required "name" (SpellsText config.name),
    .defaulted "arguments" config.arguments [] (SpellsTexts config.arguments),
    .defaulted "initializers" config.initializers [] (SpellsTexts config.initializers),
    .optional "implementation" config.implementation SpellsTexts,
    .optional "documentation" config.documentation SpellsText,
    .optional "ret_type" config.returnType SpellsText] ++
  modifierParts config.modifiers

/-- The options of a variable, in the order of a list. -/
def VariableConfig.parts (config : VariableConfig) : List Part :=
  [.required "name" (SpellsText config.name),
    .required "type" (SpellsText config.type),
    .defaulted "is_static" config.isStatic false (SpellsFlag config.isStatic),
    .defaulted "is_const" config.isConst false (SpellsFlag config.isConst),
    .defaulted "is_constexpr" config.isConstexpr false (SpellsFlag config.isConstexpr),
    .defaulted "is_extern" config.isExtern false (SpellsFlag config.isExtern),
    .optional "value" config.value SpellsText,
    .optional "documentation" config.documentation SpellsText]

/-- The options of an array, in the order of a list. -/
def ArrayConfig.parts (config : ArrayConfig) : List Part :=
  [.required "name" (SpellsText config.name),
    .required "type" (SpellsText config.type),
    .defaulted "is_static" config.isStatic false (SpellsFlag config.isStatic),
    .defaulted "is_const" config.isConst false (SpellsFlag config.isConst),
    .optional "size" config.size SpellsSize,
    .defaulted "items" config.items [] (SpellsTexts config.items),
    .optional "documentation" config.documentation SpellsText]

/-- The options of an enumeration, in the order of a list. -/
def EnumConfig.parts (config : EnumConfig) : List Part :=
  [.required "name" (SpellsText config.name),
    .optional "prefix" config.mark SpellsText,
    .defaulted "enum_class" config.isScoped false (SpellsFlag config.isScoped),
    .defaulted "items" config.items [] (SpellsTexts config.items),
    .optional "documentation" config.documentation SpellsText]

/-- The value spells the method, as a table or as a list. -/
def MethodConfig.Spells (config : MethodConfig) : Value → Prop :=
  SpellsRecord config.parts

/-- The value spells the constructor, as a table or as a list. -/
def ConstructorConfig.Spells (config : ConstructorConfig) : Value → Prop :=
  SpellsRecord config.parts

/-- The value spells the variable, as a table or as a list. -/
def VariableConfig.Spells (config : VariableConfig) : Value → Prop :=
  SpellsRecord config.parts

/-- The value spells the array, as a table or as a list. -/
def ArrayConfig.Spells (config : ArrayConfig) : Value → Prop :=
  SpellsRecord config.parts

/-- The value spells the enumeration, as a table or as a list. -/
def EnumConfig.Spells (config : EnumConfig) : Value → Prop :=
  SpellsRecord config.parts

/-- The options of a class, given the values that stand for its nested classes. -/
def ClassConfig.partsWith (config : ClassConfig) (nestedSpelled : Value → Prop) : List Part :=
  [.required "name" (SpellsText config.options.name),
    .defaulted "is_struct" config.options.isStruct false (SpellsFlag config.options.isStruct),
    .optional "parent_class" config.options.base SpellsText,
    .optional "documentation" config.options.documentation SpellsText,
    .defaulted "enums" config.options.enums []
      (SpellsList EnumConfig.Spells config.options.enums),
    .defaulted "classes" config.classes [] nestedSpelled,
    .defaulted "constructors" config.options.constructors []
      (SpellsList ConstructorConfig.Spells config.options.constructors),
    .defaulted "methods" config.options.methods []
      (SpellsList MethodConfig.Spells config.options.methods),
    .defaulted "variables" config.options.dataMembers []
      (SpellsList VariableConfig.Spells config.options.dataMembers),
    .defaulted "arrays" config.options.arrays []
      (SpellsList ArrayConfig.Spells config.options.arrays)]

namespace ClassConfig

mutual

/-- The value spells the class with everything in it. -/
def Spells : ClassConfig → Value → Prop
  | ⟨options, classes⟩, value =>
      SpellsRecord
        (partsWith ⟨options, classes⟩ fun nested =>
          ∃ values, nested = .list values ∧ SpellsAll classes values)
        value

/-- The values spell the classes in order. -/
def SpellsAll : List ClassConfig → List Value → Prop
  | [], values => values = []
  | config :: rest, values =>
      ∃ first others, values = first :: others ∧ Spells config first ∧ SpellsAll rest others

end

theorem spellsAll_iff (configs : List ClassConfig) (values : List Value) :
    SpellsAll configs values ↔ List.Forall₂ Spells configs values := by
  induction configs generalizing values with
  | nil => rw [SpellsAll, List.forall₂_nil_left_iff]
  | cons config rest inductionHypothesis =>
      rw [SpellsAll, List.forall₂_cons_left_iff]
      simp only [inductionHypothesis]
      constructor
      · rintro ⟨first, others, rfl, firstSpelled, othersSpelled⟩
        exact ⟨first, others, firstSpelled, othersSpelled, rfl⟩
      · rintro ⟨first, others, firstSpelled, othersSpelled, rfl⟩
        exact ⟨first, others, rfl, firstSpelled, othersSpelled⟩

/-- The options of a class as they are spelled. -/
def parts (config : ClassConfig) : List Part :=
  config.partsWith (SpellsList Spells config.classes)

/-- A class is spelled like every other record. -/
theorem spells_iff (config : ClassConfig) (value : Value) :
    config.Spells value ↔ SpellsRecord config.parts value := by
  cases config with
  | mk options classes =>
      have nestedEq : SpellsList Spells classes = fun nested =>
          ∃ values, nested = .list values ∧ SpellsAll classes values := by
        funext nested
        simp only [SpellsList, spellsAll_iff]
      rw [Spells, parts, nestedEq]

end ClassConfig

end CppModel.Config
