import CppModel.Proofs.Config.Omission
import CppModel.Proofs.Procedure.Units
import CppModel.Proofs.Validation.Models

/-!
# Constructors with options of methods

A configuration may give a constructor the flags and the return type of a method, and it is
read all the same.  A constructor on which a flag is set, or which has a return type, is
refused, and so is every class around it, in every form and before anything is written.  A
flag that is false leaves no trace: the class is the same without it.

A return type counts as soon as it is there, even if it is empty.
-/

namespace CppModel

open Config Procedure Scope

/-! ## Options of methods -/

namespace Config

/-- The constructor has what only methods have: a flag that is set, or a return type. -/
def ConstructorConfig.HasMethodOption (config : ConstructorConfig) : Prop :=
  (∃ modifier, config.modifiers.has modifier = true) ∨ config.returnType.isSome = true

/-- Some constructor is as asked, in the class or in a class inside it. -/
inductive ClassConfig.SomeConstructor (holds : ConstructorConfig → Prop) : ClassConfig → Prop
  | here {options : ClassOptions} {classes : List ClassConfig} {constructor : ConstructorConfig}
      (listed : constructor ∈ options.constructors) (found : holds constructor) :
      SomeConstructor holds ⟨options, classes⟩
  | inside {options : ClassOptions} {classes : List ClassConfig} {inner : ClassConfig}
      (isInner : inner ∈ classes) (found : SomeConstructor holds inner) :
      SomeConstructor holds ⟨options, classes⟩

end Config

theorem Constructor.checkPlain_ofConfig_eq_ok_iff (config : ConstructorConfig) :
    (Constructor.ofConfig config).checkPlain = .ok () ↔ ¬ config.HasMethodOption := by
  rw [checkPlain_eq_ok_iff, ConstructorConfig.HasMethodOption, not_or, not_exists,
    Bool.not_eq_true]
  simp only [Bool.not_eq_true]
  rfl

/-! ## Refusal -/

namespace Class

/-- A class is refused if it has a constructor with an option of methods. -/
theorem validate_ne_ok_of_someConstructor {config : ClassConfig} {owner : Class}
    (found : config.SomeConstructor ConstructorConfig.HasMethodOption)
    (built : BuiltFrom config owner) (context : Context) : owner.validate context ≠ .ok () := by
  induction found generalizing owner with
  | @here options _ constructor listed hasOption =>
      cases built with
      | intro _ scope inside =>
          intro valid
          have partsValid := ((validate_eq_ok_iff context _).mp valid).2
          have functionsValid := ((ClassParts.validate_eq_ok_iff context _).mp partsValid).1
          have isFunction : (MemberFunction.constructor (.ofConfig constructor)).withLink scope ∈
              (ClassParts.ofOptions scope options).functions := by
            apply List.mem_map_of_mem
            exact List.mem_append_left _ (List.mem_map_of_mem listed)
          have plain := Constructor.checkPlain_of_validate (functionsValid _ isFunction)
          exact (Constructor.checkPlain_ofConfig_eq_ok_iff constructor).mp plain hasOption
  | inside isInner _ inductionHypothesis =>
      cases built with
      | intro _ scope inside =>
          intro valid
          rcases List.append_of_mem isInner with ⟨before, after, rfl⟩
          rcases split_of_forall₂ inside.flip with ⟨front, inner, back, rfl, _, innerBuilt, _⟩
          exact inductionHypothesis innerBuilt
            (((validate_eq_ok_iff context _).mp valid).1 inner (by simp))

end Class

/-! ## Blame -/

/-- The rule is one that a constructor breaks with an option of methods. -/
def Violation.isOfConstructors : Violation → Bool
  | .constructorModifier _ => true
  | .constructorReturnType => true
  | _ => false

/-- The error says of a constructor that it has an option of methods. -/
def Error.blamesConstructor : Error → Bool
  | .grammar _ _ violation => violation.isOfConstructors
  | _ => false

theorem Modifiers.isOfConstructors_of_check {modifiers : Modifiers} {hasBody : Bool}
    {violation : Violation} (broken : modifiers.check hasBody = .error violation) :
    violation.isOfConstructors = false := by
  unfold check at broken
  repeat' split at broken
  all_goals cases broken <;> rfl

theorem Variable.isOfConstructors_of_violation? {data : Variable} {violation : Violation}
    (broken : data.violation? = some violation) : violation.isOfConstructors = false := by
  unfold violation? at broken
  repeat' split at broken
  all_goals cases broken <;> rfl

theorem Variable.blamesConstructor_of_failure {data : Variable} {error : Error}
    (failed : failure? data.validate = some error) : error.blamesConstructor = false := by
  unfold validate at failed
  split at failed
  next violation broken =>
    cases failed
    exact isOfConstructors_of_violation? broken
  next => cases failed

theorem ArrayVariable.blamesConstructor_of_failure {array : ArrayVariable} {error : Error}
    (failed : failure? array.validate = some error) : error.blamesConstructor = false := by
  unfold validate at failed
  split at failed
  · cases failed
    rfl
  · cases failed

namespace Method

variable {context : Context} {method : Method} {error : Error}

theorem blamesConstructor_of_checkLink {kind : ElementKind}
    (failed : failure? (method.checkLink context kind) = some error) :
    error.blamesConstructor = false := by
  unfold checkLink at failed
  split at failed
  · cases failed
  · cases failed
    rfl

theorem blamesConstructor_of_failure (failed : failure? (method.validate context) = some error) :
    error.blamesConstructor = false := by
  rw [validate, failure?_then, Option.or_eq_some_iff] at failed
  rcases failed with unlawful | ⟨_, unlinked⟩
  · unfold checkModifiers at unlawful
    split at unlawful
    next violation broken =>
      cases unlawful
      exact Modifiers.isOfConstructors_of_check broken
    next => cases unlawful
  · exact blamesConstructor_of_checkLink unlinked

end Method

/-- A constructor that is blamed has an option of methods. -/
theorem Constructor.checkPlain_ne_ok_of_failure {context : Context} {constructor : Constructor}
    {error : Error} (failed : failure? (constructor.validate context) = some error)
    (blames : error.blamesConstructor = true) : constructor.checkPlain ≠ .ok () := by
  intro plain
  rw [validate, failure?_then, plain, failure?_ok, Option.none_or] at failed
  rw [Method.blamesConstructor_of_checkLink failed] at blames
  cases blames

/-- A class is blamed for a constructor of its own only if this has an option of methods. -/
theorem ClassParts.exists_hasMethodOption_of_failure {context : Context} {scope : Id}
    {options : ClassOptions} {error : Error}
    (failed : failure? ((ofOptions scope options).validate context) = some error)
    (blames : error.blamesConstructor = true) :
    ∃ constructor ∈ options.constructors, constructor.HasMethodOption := by
  rw [validate, failure?_then, failure?_then, failure?_validateAll, failure?_validateAll,
    failure?_validateAll, Option.or_eq_some_iff, Option.or_eq_some_iff] at failed
  rcases failed with inFunctions | ⟨_, inData | ⟨_, inArrays⟩⟩
  · rcases List.exists_of_findSome?_eq_some inFunctions with ⟨function, listed, refused⟩
    rcases List.mem_map.mp listed with ⟨_, described, rfl⟩
    rcases List.mem_append.mp described with isConstructor | isMethod
    · rcases List.mem_map.mp isConstructor with ⟨constructor, isListed, rfl⟩
      have loaded := Constructor.checkPlain_ne_ok_of_failure refused blames
      refine ⟨constructor, isListed, ?_⟩
      by_contra plain
      exact loaded ((Constructor.checkPlain_ofConfig_eq_ok_iff constructor).mpr plain)
    · rcases List.mem_map.mp isMethod with ⟨method, _, rfl⟩
      rw [Method.blamesConstructor_of_failure refused] at blames
      cases blames
  · rcases List.exists_of_findSome?_eq_some inData with ⟨data, _, refused⟩
    rw [Variable.blamesConstructor_of_failure refused] at blames
    cases blames
  · rcases List.exists_of_findSome?_eq_some inArrays with ⟨array, _, refused⟩
    rw [ArrayVariable.blamesConstructor_of_failure refused] at blames
    cases blames

namespace Class

mutual

/-- A class that is built is blamed for a constructor only if there is one with an option of
methods. -/
theorem BuiltFrom.someConstructor_of_failure {context : Context} {error : Error}
    (blames : error.blamesConstructor = true) :
    (config : ClassConfig) → (owner : Class) → BuiltFrom config owner →
      failure? (owner.validate context) = some error →
      config.SomeConstructor ConstructorConfig.HasMethodOption
  | ⟨options, classes⟩, owner, built => by
      intro failed
      cases built with
      | intro _ scope inside =>
          rw [failure?_validate, Option.or_eq_some_iff] at failed
          rcases failed with deeper | ⟨_, own⟩
          · rcases List.exists_of_findSome?_eq_some deeper with ⟨inner, listed, refused⟩
            rcases someConstructor_of_nestedFailure blames classes _ inside inner listed refused
              with ⟨config, isInner, found⟩
            exact .inside isInner found
          · rcases ClassParts.exists_hasMethodOption_of_failure own blames with
              ⟨constructor, listed, hasOption⟩
            exact .here listed hasOption

theorem someConstructor_of_nestedFailure {context : Context} {error : Error}
    (blames : error.blamesConstructor = true) :
    (configs : List ClassConfig) → (classes : List Class) →
      List.Forall₂ BuiltFrom configs classes → ∀ owner ∈ classes,
        failure? (owner.validate context) = some error →
        ∃ config ∈ configs, config.SomeConstructor ConstructorConfig.HasMethodOption
  | [], _, .nil => by simp
  | config :: rest, owner :: others, .cons first inside => by
      rw [List.forall_mem_cons]
      constructor
      · intro failed
        have found := BuiltFrom.someConstructor_of_failure blames config owner first failed
        exact ⟨config, List.mem_cons_self, found⟩
      · intro other listed failed
        rcases someConstructor_of_nestedFailure blames rest others inside other listed failed with
          ⟨inner, isInner, found⟩
        exact ⟨inner, List.mem_cons_of_mem _ isInner, found⟩

end

/-- Constructors are judged by the options of methods that they have.

A table that spells a class is read as this class, and so is what is left of it when false flags
of constructors are left out, at any depth.  If a constructor in the class has a flag that is
set, or a return type, then the class that is built is refused, in every form and with nothing
written; and if the check blames a constructor for an option of methods, there is such a
constructor. -/
theorem options_of_constructors_are_judged (config : ClassConfig) (entries : Toml.Table)
    (fits : config.Everywhere ClassOptions.SizesFit) (spelled : config.Spells (.table entries)) :
    ClassConfig.fromTable entries = .ok config ∧
      (∀ shorter, Relation.ReflTransGen ClassConfig.LosesFlag (.table entries) (.table shorter) →
        ClassConfig.fromTable shorter = .ok config) ∧
      ∀ (forest : Forest) (context : Context),
        let owner := ((ofConfig config).run forest).1
        (config.SomeConstructor ConstructorConfig.HasMethodOption →
          ∃ error, owner.validate context = .error error ∧
            ∀ form sink, ((Element.classType owner).write context form).runOn sink =
              (sink, .error error)) ∧
          ∀ error, owner.validate context = .error error → error.blamesConstructor = true →
            config.SomeConstructor ConstructorConfig.HasMethodOption := by
  refine ⟨ClassConfig.fromTable_eq fits spelled, ?_, ?_⟩
  · intro shorter loses
    exact ClassConfig.fromTable_eq fits (spelled.of_losesFlags loses)
  · intro forest context owner
    have built : BuiltFrom config owner := (yields_ofConfig config forest).2.1
    constructor
    · intro found
      cases checked : owner.validate context with
      | ok passed => exact absurd checked (validate_ne_ok_of_someConstructor found built context)
      | error error =>
          refine ⟨error, rfl, fun form sink => ?_⟩
          have refused := (Element.classType owner).heeds_rendering context form error checked
          rw [(Element.classType owner).carriesOut_write context form sink, refused]
          rfl
    · intro error refused blames
      have failed := (failure?_eq_some_iff _ _).mpr refused
      exact BuiltFrom.someConstructor_of_failure blames config owner built failed

/-! ### A lantern with a wick

The constructor of the lantern spells out that it is not `static`, which may be left out.  That
of the wick inside it is `const`. -/

namespace Lantern

/-- A class with one constructor. -/
def withConstructor (constructor : ConstructorConfig) (classes : List ClassConfig) : ClassConfig :=
  ⟨{ name := constructor.name, constructors := [constructor] }, classes⟩

/-- A table that spells such a class, given the options of its constructor. -/
def tableWith (name : String) (options : Toml.Table) (classes : List Toml.Value) : Toml.Table :=
  [("name", .string name), ("constructors", .list [.table (("name", .string name) :: options)]),
    ("classes", .list classes)]

theorem spells_withConstructor {constructor : ConstructorConfig} {options : Toml.Table}
    {classes : List ClassConfig} {values : List Toml.Value}
    (spelled : constructor.Spells (.table (("name", .string constructor.name) :: options)))
    (inside : List.Forall₂ ClassConfig.Spells classes values) :
    (withConstructor constructor classes).Spells
      (.table (tableWith constructor.name options values)) := by
  rw [ClassConfig.spells_iff]
  refine .table (by simp [tableWith]) ?_ ?_
  · simp [ClassConfig.parts, ClassConfig.partsWith, withConstructor, tableWith, Part.required,
      Part.optional, Part.defaulted, SpellsText, SpellsList, spelled, inside]
  · simp [ClassConfig.parts, ClassConfig.partsWith, withConstructor, tableWith, Part.required,
      Part.optional, Part.defaulted]

theorem fits_withConstructor {constructor : ConstructorConfig} {classes : List ClassConfig}
    (inside : ∀ inner ∈ classes, inner.Everywhere ClassOptions.SizesFit) :
    (withConstructor constructor classes).Everywhere ClassOptions.SizesFit :=
  .intro (by simp [ClassOptions.SizesFit]) inside

/-- The check of the class in the scopes that it has been built in. -/
def check (config : ClassConfig) : Except Error Unit :=
  let (owner, forest) := (ofConfig config).run .empty
  owner.validate (.ofScopes forest)

/-- A constructor with nothing but its name. -/
def lantern : ConstructorConfig := { name := "Lantern" }

/-- A constructor with a modifier that it may not have. -/
def wick : ConstructorConfig := { name := "Wick", modifiers := { isConst := true } }

/-- The table of the class inside. -/
def wickTable : Toml.Table := tableWith "Wick" [("is_const", .boolean true)] []

theorem spells_lantern :
    lantern.Spells (.table [("name", .string "Lantern"), ("is_static", .boolean false)]) := by
  refine .table (by decide) ?_ ?_
  · simp [ConstructorConfig.parts, modifierParts, lantern, Part.required, Part.optional,
      Part.defaulted, SpellsText, SpellsFlag]
  · simp [ConstructorConfig.parts, modifierParts, lantern, Part.required, Part.optional,
      Part.defaulted]

theorem spells_wick :
    wick.Spells (.table [("name", .string "Wick"), ("is_const", .boolean true)]) := by
  refine .table (by decide) ?_ ?_
  · simp [ConstructorConfig.parts, modifierParts, wick, Part.required, Part.optional,
      Part.defaulted, SpellsText, SpellsFlag]
  · simp [ConstructorConfig.parts, modifierParts, wick, Part.required, Part.optional,
      Part.defaulted]

theorem isFlag_static : "is_static" ∈ flagNames := by
  decide

theorem omits_static :
    Omits ConstructorConfig.names "is_static" (.boolean false)
      (.table [("name", .string "Lantern"), ("is_static", .boolean false)])
      (.table [("name", .string "Lantern")]) :=
  .table [("name", .string "Lantern")] []

/-- The lantern without the flag that is false. -/
theorem losesFlag_lantern :
    ClassConfig.LosesFlag
      (.table (tableWith "Lantern" [("is_static", .boolean false)] [.table wickTable]))
      (.table (tableWith "Lantern" [] [.table wickTable])) := by
  have exchanged : Exchanges ClassConfig.names "constructors"
      (.list ([] ++ [.table [("name", .string "Lantern"), ("is_static", .boolean false)]]))
      (.list ([] ++ [.table [("name", .string "Lantern")]]))
      (.table (tableWith "Lantern" [("is_static", .boolean false)] [.table wickTable]))
      (.table (tableWith "Lantern" [] [.table wickTable])) :=
    .table [("name", .string "Lantern")] [("classes", .list [.table wickTable])]
  exact .here isFlag_static omits_static exchanged

end Lantern

open Lantern in
theorem wick_is_refused :
    let config := withConstructor lantern [withConstructor wick []]
    let entries := tableWith "Lantern" [("is_static", .boolean false)] [.table wickTable]
    config.Everywhere ClassOptions.SizesFit ∧ config.Spells (.table entries) ∧
      ClassConfig.fromTable (tableWith "Lantern" [] [.table wickTable]) = .ok config ∧
      ∃ error, check config = .error error := by
  intro config entries
  have fits : config.Everywhere ClassOptions.SizesFit :=
    fits_withConstructor (List.forall_mem_singleton.mpr (fits_withConstructor (by simp)))
  have spelled : config.Spells (.table entries) :=
    spells_withConstructor spells_lantern
      (.cons (spells_withConstructor spells_wick .nil) .nil)
  rcases options_of_constructors_are_judged config entries fits spelled with
    ⟨_, shorter, judged⟩
  have found : config.SomeConstructor ConstructorConfig.HasMethodOption :=
    .inside List.mem_cons_self (.here List.mem_cons_self (.inl ⟨.const, rfl⟩))
  rcases (judged .empty (.ofScopes ((ofConfig config).run .empty).2)).1 found with
    ⟨error, refused, _⟩
  exact ⟨fits, spelled, shorter _ (.single losesFlag_lantern), error, refused⟩

open Lantern in
/-- An empty return type is not passed over: the class is refused with it, and accepted
without it. -/
theorem empty_return_type_is_refused :
    let config := withConstructor { name := "Lantern", returnType := "" } []
    ClassConfig.fromTable (tableWith "Lantern" [("ret_type", .string "")] []) = .ok config ∧
      ClassConfig.fromTable (tableWith "Lantern" [] []) = .ok (withConstructor lantern []) ∧
      check config = .error (.grammar .constructor "Lantern" .constructorReturnType) ∧
      check (withConstructor lantern []) = .ok () := by
  have spelled : ConstructorConfig.Spells { name := "Lantern", returnType := "" }
      (.table [("name", .string "Lantern"), ("ret_type", .string "")]) := by
    refine .table (by decide) ?_ ?_
    · simp [ConstructorConfig.parts, modifierParts, Part.required, Part.optional,
        Part.defaulted, SpellsText]
    · simp [ConstructorConfig.parts, modifierParts, Part.required, Part.optional,
        Part.defaulted]
  refine ⟨?_, ?_, rfl, rfl⟩
  · exact ClassConfig.fromTable_eq (fits_withConstructor (by simp))
      (spells_withConstructor spelled .nil)
  · exact ClassConfig.fromTable_eq (fits_withConstructor (by simp))
      (spells_withConstructor (spells_lantern.of_omits isFlag_static omits_static) .nil)

end Class

end CppModel
