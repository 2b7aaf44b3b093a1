import CppModel.Model
import CppModel.Proofs.Scope.Forest
import Mathlib.Data.List.Forall2

/-!
# What a configuration builds

Building a class adds its members one by one and its scopes to a forest.  What comes out
is described without the forest: the members of the configuration under a link to the
scope of the class, and classes that are built from the nested configurations.

No step of building drops a scope, so every scope that a class owns is alive when the
class is complete, and stays alive while the rest of a model is built.
-/

namespace CppModel

open Config Scope

open Scope.Forest (Outlives)

/-- Everywhere in the configuration, the options are as asked. -/
inductive Config.ClassConfig.Everywhere (holds : ClassOptions → Prop) : ClassConfig → Prop
  | intro {options : ClassOptions} {classes : List ClassConfig} (here : holds options)
      (inside : ∀ inner ∈ classes, Everywhere holds inner) :
      Everywhere holds ⟨options, classes⟩

/-- The members that a configuration describes, linked to the scope of their class. -/
def ClassParts.ofOptions (scope : Id) (options : ClassOptions) : ClassParts where
  scope := scope
  name := options.name
  isStruct := options.isStruct
  base := options.base
  documentation := options.documentation
  enumerations := (options.enums.map Enumeration.ofConfig).map fun enumeration =>
    { enumeration with link := some scope }
  functions := (Class.functionsOfConfig options).map (·.withLink (some scope))
  dataMembers := (options.dataMembers.map Variable.ofConfig).map fun data =>
    { data with link := some scope }
  arrays := (options.arrays.map ArrayVariable.ofConfig).map fun array =>
    { array with link := some scope }

namespace Class

/-- The class consists of what the configuration describes, in whatever scopes. -/
inductive BuiltFrom : ClassConfig → Class → Prop
  | intro (options : ClassOptions) (scope : Id) {classes : List ClassConfig}
      {nested : List Class} (inside : List.Forall₂ BuiltFrom classes nested) :
      BuiltFrom ⟨options, classes⟩ ⟨ClassParts.ofOptions scope options, nested⟩

/-- Every scope that the class owns is alive. -/
def IsAlive (forest : Forest) (owner : Class) : Prop :=
  ∀ scope ∈ owner.scopes, forest.isAttached (some scope) = true

theorem IsAlive.outlives {before after : Forest} {owner : Class}
    (alive : owner.IsAlive before) (outlives : before.Outlives after) : owner.IsAlive after :=
  fun scope owned => outlives scope (alive scope owned)

end Class

/-! ## Actions on forests -/

/-- The action drops no scope of the forest, and what it comes to is as promised. -/
def Yields {Result : Type} (action : StateM Forest Result) (forest : Forest)
    (promise : Result → Forest → Prop) : Prop :=
  forest.Outlives (action.run forest).2 ∧ promise (action.run forest).1 (action.run forest).2

section Yields

variable {Result Next : Type} {action : StateM Forest Result} {forest : Forest}
  {promise : Result → Forest → Prop}

theorem yields_pure {result : Result} (kept : promise result forest) :
    Yields (pure result) forest promise :=
  ⟨Outlives.refl forest, kept⟩

/-- After an action, the next one starts from what the first one promised. -/
theorem yields_bind {next : Result → StateM Forest Next} {nextPromise : Next → Forest → Prop}
    (first : Yields action forest promise)
    (rest : ∀ result after, forest.Outlives after → promise result after →
      Yields (next result) after nextPromise) :
    Yields (action >>= next) forest nextPromise := by
  rcases first with ⟨outlives, kept⟩
  rcases rest _ _ outlives kept with ⟨restOutlives, restKept⟩
  exact ⟨outlives.trans restOutlives, restKept⟩

end Yields

namespace Class

/-! ## Adding members -/

theorem yields_createOfConfig (options : ClassOptions) (forest : Forest) :
    Yields (createOfConfig options) forest fun owner after =>
      ∃ scope, after.isAttached (some scope) = true ∧
        owner = ⟨{
          scope := scope
          name := options.name
          isStruct := options.isStruct
          base := options.base
          documentation := options.documentation }, []⟩ := by
  constructor
  · exact Forest.outlives_create forest options.name
  · exact ⟨_, (Forest.isAttached_create forest options.name _).mpr (.inl rfl), rfl⟩

theorem yields_addEnumeration (owner : Class) (enumeration : Enumeration) (forest : Forest) :
    Yields (owner.addEnumeration enumeration) forest fun next _ =>
      next = ⟨{ owner.parts with
        enumerations := owner.parts.enumerations ++
          [{ enumeration with link := owner.memberLink }] }, owner.nested⟩ := by
  constructor
  · exact Forest.outlives_update _ _ _
  · rfl

theorem yields_addEnumerations (owner : Class) (enumerations : List Enumeration)
    (forest : Forest) :
    Yields (owner.addEnumerations enumerations) forest fun next _ =>
      next = ⟨{ owner.parts with
        enumerations := owner.parts.enumerations ++
          enumerations.map fun enumeration => { enumeration with link := owner.memberLink } },
        owner.nested⟩ := by
  induction enumerations generalizing owner forest with
  | nil =>
      apply yields_pure
      cases owner
      simp
  | cons first rest inductionHypothesis =>
      apply yields_bind (yields_addEnumeration owner first forest)
      rintro _ after _ rfl
      rcases inductionHypothesis _ after with ⟨outlives, members⟩
      refine ⟨outlives, members.trans ?_⟩
      simp [memberLink]

theorem addFunctions_eq (owner : Class) (functions : List MemberFunction) :
    owner.addFunctions functions =
      ⟨{ owner.parts with
        functions := owner.parts.functions ++ functions.map (·.withLink owner.memberLink) },
        owner.nested⟩ := by
  rw [addFunctions]
  induction functions generalizing owner with
  | nil => cases owner; simp
  | cons first rest inductionHypothesis =>
      rw [List.foldl_cons, inductionHypothesis]
      simp [addFunction, memberLink]

theorem addVariables_eq (owner : Class) (members : List Variable) :
    owner.addVariables members =
      ⟨{ owner.parts with
        dataMembers := owner.parts.dataMembers ++
          members.map fun data => { data with link := owner.memberLink } },
        owner.nested⟩ := by
  rw [addVariables]
  induction members generalizing owner with
  | nil => cases owner; simp
  | cons first rest inductionHypothesis =>
      rw [List.foldl_cons, inductionHypothesis]
      simp [addVariable, memberLink]

theorem addArrays_eq (owner : Class) (arrays : List ArrayVariable) :
    owner.addArrays arrays =
      ⟨{ owner.parts with
        arrays := owner.parts.arrays ++
          arrays.map fun array => { array with link := owner.memberLink } },
        owner.nested⟩ := by
  rw [addArrays]
  induction arrays generalizing owner with
  | nil => cases owner; simp
  | cons first rest inductionHypothesis =>
      rw [List.foldl_cons, inductionHypothesis]
      simp [addArray, memberLink]

/-- Nesting a class drops nothing, whether or not its scope can be attached. -/
theorem yields_addClass (owner inner : Class) (forest : Forest) :
    Yields (owner.addClass inner) forest fun next _ =>
      next = ⟨owner.parts, owner.nested ++ [inner]⟩ := by
  constructor
  · exact (Forest.outlives_update _ _ _).trans (Forest.outlives_attach _ _ _)
  · rfl

/-! ## Building classes -/

theorem forall_mem_scopesOfAll (holds : Id → Prop) (nested : List Class) :
    (∀ scope ∈ scopesOfAll nested, holds scope) ↔
      ∀ inner ∈ nested, ∀ scope ∈ inner.scopes, holds scope := by
  induction nested with
  | nil => simp [scopesOfAll]
  | cons first rest inductionHypothesis =>
      rw [scopesOfAll, List.forall_mem_append, List.forall_mem_cons, inductionHypothesis]

theorem isAlive_iff (forest : Forest) (parts : ClassParts) (nested : List Class) :
    IsAlive forest ⟨parts, nested⟩ ↔
      forest.isAttached (some parts.scope) = true ∧ ∀ inner ∈ nested, inner.IsAlive forest := by
  unfold IsAlive
  rw [scopes, List.forall_mem_cons, forall_mem_scopesOfAll]

mutual

/-- A class is built as its configuration describes it, and is alive when it is
complete. -/
theorem yields_ofConfig :
    (config : ClassConfig) → (forest : Forest) →
      Yields (ofConfig config) forest fun owner after =>
        BuiltFrom config owner ∧ owner.IsAlive after
  | ⟨options, classes⟩, forest => by
      rw [ofConfig]
      apply yields_bind (yields_createOfConfig options forest)
      rintro _ created _ ⟨scope, alive, rfl⟩
      apply yields_bind (yields_addEnumerations _ _ created)
      rintro _ enumerated enumeratedOutlives rfl
      apply yields_bind (yields_addNestedOfConfig classes _ enumerated)
      rintro _ complete completeOutlives ⟨nested, inside, nestedAlive, rfl⟩
      apply yields_pure
      constructor
      · rw [addFunctions_eq, addVariables_eq, addArrays_eq]
        exact BuiltFrom.intro options scope inside
      · rw [addFunctions_eq, addVariables_eq, addArrays_eq, isAlive_iff]
        exact ⟨completeOutlives _ (enumeratedOutlives _ alive), nestedAlive⟩

/-- The classes of a list are built and nested one after another, behind those that are
nested already. -/
theorem yields_addNestedOfConfig :
    (configs : List ClassConfig) → (owner : Class) → (forest : Forest) →
      Yields (addNestedOfConfig configs owner) forest fun next after =>
        ∃ nested, List.Forall₂ BuiltFrom configs nested ∧
          (∀ inner ∈ nested, inner.IsAlive after) ∧
          next = ⟨owner.parts, owner.nested ++ nested⟩
  | [], owner, forest => by
      rw [addNestedOfConfig]
      apply yields_pure
      refine ⟨[], .nil, by simp, ?_⟩
      cases owner
      rw [List.append_nil]
  | config :: rest, owner, forest => by
      rw [addNestedOfConfig]
      apply yields_bind (yields_ofConfig config forest)
      rintro inner built _ ⟨builtFrom, innerAlive⟩
      apply yields_bind (yields_addClass owner inner built)
      rintro _ added addedOutlives rfl
      rcases yields_addNestedOfConfig rest _ added with
        ⟨outlives, nested, inside, nestedAlive, complete⟩
      refine ⟨outlives, inner :: nested, .cons builtFrom inside, ?_, ?_⟩
      · rw [List.forall_mem_cons]
        exact ⟨innerAlive.outlives (addedOutlives.trans outlives), nestedAlive⟩
      · rw [complete, List.append_assoc, List.singleton_append]

end

end Class

/-! ## Building units -/

namespace TranslationUnit

/-- The unit with the given functions, and the given classes behind them. -/
def ofFunctionsAndClasses (functions : List FreeFunction) (classes : List Class) :
    TranslationUnit :=
  ⟨functions.map .function ++ classes.map .classType⟩

theorem yields_addClassesOfConfig (unit : TranslationUnit) (configs : List ClassConfig)
    (forest : Forest) :
    Yields (unit.addClassesOfConfig configs) forest fun next after =>
      ∃ classes, List.Forall₂ Class.BuiltFrom configs classes ∧
        (∀ owner ∈ classes, owner.IsAlive after) ∧
        next = ⟨unit.items ++ classes.map .classType⟩ := by
  induction configs generalizing unit forest with
  | nil =>
      apply yields_pure
      refine ⟨[], .nil, by simp, ?_⟩
      cases unit
      rw [List.map_nil, List.append_nil]
  | cons config rest inductionHypothesis =>
      apply yields_bind (Class.yields_ofConfig config forest)
      rintro owner built _ ⟨builtFrom, ownerAlive⟩
      rcases inductionHypothesis (unit.add (.classType owner)) built with
        ⟨outlives, classes, inside, classesAlive, complete⟩
      refine ⟨outlives, owner :: classes, .cons builtFrom inside, ?_, ?_⟩
      · rw [List.forall_mem_cons]
        exact ⟨ownerAlive.outlives outlives, classesAlive⟩
      · rw [complete, add, List.append_assoc, List.singleton_append, List.map_cons]

end TranslationUnit

/-- A model is built into its functions and, behind them, classes as it describes them,
all of them alive. -/
theorem Model.build_eq (model : Model) :
    ∃ classes, List.Forall₂ Class.BuiltFrom model.classes classes ∧
      (∀ owner ∈ classes, owner.IsAlive model.build.2.scopes) ∧
      model.build.1 =
        .ofFunctionsAndClasses (model.functions.map .ofConfig) classes := by
  have built := TranslationUnit.yields_addClassesOfConfig
    ⟨model.functions.map fun function => Element.function (.ofConfig function)⟩
    model.classes .empty
  rcases built with ⟨_, classes, inside, alive, complete⟩
  refine ⟨classes, inside, alive, ?_⟩
  refine Eq.trans complete ?_
  rw [TranslationUnit.ofFunctionsAndClasses, List.map_map]
  rfl

end CppModel
