import CppModel.Proofs.Config.Building
import CppModel.Proofs.Validation.Definables

/-!
# Checked models

A model says by itself which functions its source has to define, and in which order.
The unit that is built from it agrees: as long as it is valid, the first function
without a body is the only reason for which its source can be refused.

Two errors are never met in a model.  A member function that is built belongs to a class
that is alive, so it is no orphan; and a pure virtual method is never asked for its
definition, because it is not among the functions that need one.
-/

namespace CppModel

open Config

/-! ## The functions of a model that need a body -/

namespace Config

/-- The configured function as something that a source has to define. -/
def FunctionConfig.definable (config : FunctionConfig) : Definable :=
  ⟨.function, config.name, config.implementation.isSome⟩

/-- The configured constructor as something that a source has to define. -/
def ConstructorConfig.definable (config : ConstructorConfig) : Definable :=
  ⟨.constructor, config.name, config.implementation.isSome⟩

/-- The configured method as something that a source has to define. -/
def MethodConfig.definable (config : MethodConfig) : Definable :=
  ⟨.method, config.name, config.implementation.isSome⟩

/-- Whether the source has to define the method. -/
def MethodConfig.needsDefinition (config : MethodConfig) : Bool :=
  !config.modifiers.isPureVirtual && !config.modifiers.isConstexpr

/-- What a source has to define of a class, nested classes apart: constructors, then
methods. -/
def ClassOptions.definables (options : ClassOptions) : List Definable :=
  options.constructors.map (·.definable) ++
    (options.methods.filter (·.needsDefinition)).map (·.definable)

mutual

/-- What a source has to define of a class: its own functions, then those of its nested
classes, depth first. -/
def ClassConfig.definables : ClassConfig → List Definable
  | ⟨options, classes⟩ => options.definables ++ definablesOfAll classes

/-- What a source has to define of the classes of a list. -/
def definablesOfAll : List ClassConfig → List Definable
  | [] => []
  | config :: rest => config.definables ++ definablesOfAll rest

end

/-- What a source has to define of a model: functions in the order of the file, then
classes in the order of the file. -/
def ModelConfig.definables (model : ModelConfig) : List Definable :=
  (model.functions.filter (! ·.isConstexpr)).map (·.definable) ++ definablesOfAll model.classes

end Config

theorem isSome_bodyOfLines (lines : Option (List String)) :
    (bodyOfLines lines).isSome = lines.isSome := by
  cases lines <;> rfl

theorem FreeFunction.definables_ofConfig (configs : List FunctionConfig) :
    FreeFunction.definables (configs.map .ofConfig) =
      (configs.filter (! ·.isConstexpr)).map (·.definable) := by
  rw [FreeFunction.definables, List.filter_map, List.map_map]
  apply List.map_congr_left
  intro config _
  simp only [Function.comp_apply, FreeFunction.definable, FunctionConfig.definable,
    FreeFunction.ofConfig, isSome_bodyOfLines]

theorem ClassParts.definables_ofOptions (scope : Scope.Id) (options : ClassOptions) :
    (ClassParts.ofOptions scope options).definables = options.definables := by
  rw [definables, ClassOptions.definables, ofOptions, Class.functionsOfConfig]
  simp only [List.map_append, List.map_map, List.filter_append, List.filter_map]
  congr 1
  · -- A constructor is always defined in the source.
    rw [List.filter_eq_self.mpr (by intro config _; rfl)]
    apply List.map_congr_left
    intro config _
    exact congrArg (Definable.mk _ _) (isSome_bodyOfLines _)
  · apply List.map_congr_left
    intro config _
    exact congrArg (Definable.mk _ _) (isSome_bodyOfLines _)

namespace Class

mutual

/-- A class that is built needs the definitions that its configuration tells. -/
theorem BuiltFrom.definables_eq :
    (config : ClassConfig) → (owner : Class) → BuiltFrom config owner →
      owner.definables = config.definables
  | ⟨options, classes⟩, owner, builtFrom => by
      cases builtFrom with
      | intro _ scope inside =>
          rw [definables, ClassConfig.definables, ClassParts.definables_ofOptions,
            definablesOfAll_eq classes _ inside]

theorem definablesOfAll_eq :
    (configs : List ClassConfig) → (classes : List Class) →
      List.Forall₂ BuiltFrom configs classes →
      definablesOfAll classes = Config.definablesOfAll configs
  | [], _, .nil => rfl
  | config :: rest, owner :: others, .cons first inside => by
      rw [definablesOfAll, Config.definablesOfAll, BuiltFrom.definables_eq config owner first,
        definablesOfAll_eq rest others inside]

end

end Class

/-! ## Errors that a model cannot have -/

/-- The error says that an element breaks the grammar of declarations. -/
def Error.isGrammar : Error → Bool
  | .grammar _ _ _ => true
  | _ => false

theorem FreeFunction.isGrammar_of_failure {function : FreeFunction} {error : Error}
    (failed : failure? function.validate = some error) : error.isGrammar = true := by
  unfold validate at failed
  split at failed
  · cases failed
    rfl
  · cases failed

theorem Variable.isGrammar_of_failure {data : Variable} {error : Error}
    (failed : failure? data.validate = some error) : error.isGrammar = true := by
  unfold validate at failed
  split at failed
  · cases failed
    rfl
  · cases failed

theorem ArrayVariable.isGrammar_of_failure {array : ArrayVariable} {error : Error}
    (failed : failure? array.validate = some error) : error.isGrammar = true := by
  unfold validate at failed
  split at failed
  · cases failed
    rfl
  · cases failed

theorem Method.isGrammar_of_failure {method : Method} {error : Error}
    (failed : failure? method.checkModifiers = some error) : error.isGrammar = true := by
  unfold checkModifiers at failed
  split at failed
  · cases failed
    rfl
  · cases failed

theorem Constructor.isGrammar_of_failure {constructor : Constructor} {error : Error}
    (failed : failure? constructor.checkPlain = some error) : error.isGrammar = true := by
  unfold checkPlain at failed
  split at failed
  · cases failed
    rfl
  · split at failed
    · cases failed
      rfl
    · cases failed

/-- A member function of a living scope is refused for its grammar only. -/
theorem MemberFunction.isGrammar_of_failure {context : Context} {function : MemberFunction}
    {error : Error} (attached : context.scopes.isAttached function.link = true)
    (failed : failure? (function.validate context) = some error) : error.isGrammar = true := by
  cases function with
  | method content =>
      have linked : content.checkLink context .method = .ok () := if_pos attached
      rw [validate, Method.validate, failure?_then, linked, failure?_ok, Option.or_none] at failed
      exact Method.isGrammar_of_failure failed
  | constructor content =>
      have linked : content.checkLink context .constructor = .ok () := if_pos attached
      rw [validate, Constructor.validate, failure?_then, linked, failure?_ok,
        Option.or_none] at failed
      exact Constructor.isGrammar_of_failure failed

theorem ClassParts.isGrammar_of_failure {context : Context} {parts : ClassParts}
    {error : Error}
    (attached : ∀ function ∈ parts.functions, context.scopes.isAttached function.link = true)
    (failed : failure? (parts.validate context) = some error) : error.isGrammar = true := by
  rw [validate, failure?_then, failure?_then, failure?_validateAll, failure?_validateAll,
    failure?_validateAll, Option.or_eq_some_iff, Option.or_eq_some_iff] at failed
  rcases failed with inFunctions | ⟨_, inData | ⟨_, inArrays⟩⟩
  · rcases List.exists_of_findSome?_eq_some inFunctions with ⟨function, listed, refused⟩
    exact MemberFunction.isGrammar_of_failure (attached function listed) refused
  · rcases List.exists_of_findSome?_eq_some inData with ⟨data, _, refused⟩
    exact Variable.isGrammar_of_failure refused
  · rcases List.exists_of_findSome?_eq_some inArrays with ⟨array, _, refused⟩
    exact ArrayVariable.isGrammar_of_failure refused

theorem ClassParts.attached_ofOptions {forest : Scope.Forest} {scope : Scope.Id}
    (alive : forest.isAttached (some scope) = true) (options : ClassOptions) :
    ∀ function ∈ (ClassParts.ofOptions scope options).functions,
      forest.isAttached function.link = true := by
  intro function listed
  rcases List.mem_map.mp listed with ⟨described, _, rfl⟩
  rw [MemberFunction.link_withLink]
  exact alive

namespace Class

mutual

/-- A class that is built is refused for its grammar only, while its scopes are alive. -/
theorem BuiltFrom.isGrammar_of_failure {context : Context} :
    (config : ClassConfig) → (owner : Class) → BuiltFrom config owner →
      owner.IsAlive context.scopes → ∀ error,
        failure? (owner.validate context) = some error → error.isGrammar = true
  | ⟨options, classes⟩, owner, builtFrom => by
      intro alive error failed
      cases builtFrom with
      | intro _ scope inside =>
          rw [isAlive_iff] at alive
          rw [failure?_validate, Option.or_eq_some_iff] at failed
          rcases failed with deeper | ⟨_, own⟩
          · rcases List.exists_of_findSome?_eq_some deeper with ⟨inner, listed, refused⟩
            exact isGrammar_of_nestedFailure classes _ inside alive.2 inner listed error refused
          · exact ClassParts.isGrammar_of_failure
              (ClassParts.attached_ofOptions alive.1 options) own

theorem isGrammar_of_nestedFailure {context : Context} :
    (configs : List ClassConfig) → (classes : List Class) →
      List.Forall₂ BuiltFrom configs classes →
      (∀ owner ∈ classes, owner.IsAlive context.scopes) → ∀ owner ∈ classes, ∀ error,
        failure? (owner.validate context) = some error → error.isGrammar = true
  | [], _, .nil => by simp
  | config :: rest, owner :: others, .cons first inside => by
      rw [List.forall_mem_cons, List.forall_mem_cons]
      rintro ⟨ownerAlive, othersAlive⟩
      constructor
      · exact BuiltFrom.isGrammar_of_failure config owner first ownerAlive
      · exact isGrammar_of_nestedFailure rest others inside othersAlive

end

end Class

namespace TranslationUnit

/-- The source of a valid unit fails with the first function that has no body: functions
come first, then the functions of classes. -/
theorem failure?_source {context : Context} {functions : List FreeFunction}
    {classes : List Class}
    (valid : (ofFunctionsAndClasses functions classes).validate context = .ok ()) :
    failure? ((ofFunctionsAndClasses functions classes).rendering context .source) =
      (FreeFunction.definables functions ++ Class.definablesOfAll classes).findSome?
        Definable.failure? := by
  have itemsValid := (validate_eq_ok_iff context _).mp valid
  have functionsValid : ∀ function ∈ functions, function.validate = .ok () := by
    intro function listed
    exact itemsValid (.function function)
      (List.mem_append_left _ (List.mem_map_of_mem listed))
  have classesValid : ∀ owner ∈ classes, owner.validate context = .ok () := by
    intro owner listed
    exact itemsValid (.classType owner) (List.mem_append_right _ (List.mem_map_of_mem listed))
  rw [failure?_rendering valid, List.findSome?_append,
    ← FreeFunction.findSome?_definition functionsValid, ← Class.findSome?_definition classesValid,
    ofFunctionsAndClasses, List.findSome?_append, List.findSome?_map, List.findSome?_map]
  rfl

end TranslationUnit

namespace Model

variable (model : Model)

/-- The unit that is built from a model is refused for its grammar only. -/
theorem isGrammar_of_failure {error : Error}
    (failed : failure? (model.build.1.validate model.build.2) = some error) :
    error.isGrammar = true := by
  rcases model.build_eq with ⟨classes, builtFrom, alive, complete⟩
  rw [complete, TranslationUnit.validate, failure?_validateAll,
    TranslationUnit.ofFunctionsAndClasses] at failed
  rcases List.exists_of_findSome?_eq_some failed with ⟨element, listed, refused⟩
  rcases List.mem_append.mp listed with isFunction | isClass
  · rcases List.mem_map.mp isFunction with ⟨function, _, rfl⟩
    exact FreeFunction.isGrammar_of_failure refused
  · rcases List.mem_map.mp isClass with ⟨owner, ofModel, rfl⟩
    exact Class.isGrammar_of_nestedFailure model.classes classes builtFrom alive owner ofModel
      error refused

/-- The source of a valid model fails with the first function that has no body. -/
theorem failure?_source (valid : model.build.1.validate model.build.2 = .ok ()) :
    failure? (model.build.1.rendering model.build.2 .source) =
      (model.definables.find? (! ·.isImplemented)).map Definable.missing := by
  rcases model.build_eq with ⟨classes, builtFrom, _, complete⟩
  rw [complete] at valid ⊢
  rw [TranslationUnit.failure?_source valid, FreeFunction.definables_ofConfig,
    Class.definablesOfAll_eq model.classes classes builtFrom, ← Definable.findSome?_failure?]
  rfl

end Model

end CppModel
