import CppModel.Proofs.Calls.Benches
import CppModel.Proofs.Class.Twins

/-!
# Configured and called for

A model can be built from its configuration, or by calls: the functions and the members of
classes by the calls of their builders, and the classes on a bench, where members of
different kinds are added in any order, and a nested class is made before or after the class
around it.

The two units cannot be told apart.  A recipe that spells a configuration makes a class as
the configuration describes it, and two such classes resemble each other, though their
scopes have been made at different moments and have declared their types in another order.
-/

namespace CppModel

open Config Scope

/-- The constructors have nothing that there is no call for. -/
def Config.ClassOptions.IsCallable (options : ClassOptions) : Prop :=
  ∀ config ∈ options.constructors, Constructor.IsCallable config

/-- Additions of all kinds, each kind in order. -/
def Addition.list {Inner : Type} (enumerations : List Enumeration) (inner : List Inner)
    (functions : List MemberFunction) (dataMembers : List Variable)
    (arrays : List ArrayVariable) : List (Addition Inner) :=
  enumerations.map (.member <| .enumeration ·) ++ inner.map .nested ++
    functions.map (.member <| .function ·) ++ dataMembers.map (.member <| .data ·) ++
    arrays.map (.member <| .array ·)

/-- The recipe calls for what the configuration describes: for its head, and for members that
the calls of their own configurations make, each kind in order and constructors before
methods. -/
inductive Recipe.Spells : ClassConfig → Recipe → Prop
  | intro {options : ClassOptions} {classes : List ClassConfig} {recipe : Recipe}
      {enumerations : List Enumeration} {inner : List Recipe} {constructors : List Constructor}
      {methods : List Method} {dataMembers : List Variable} {arrays : List ArrayVariable}
      (name : recipe.name = options.name)
      (head : Interleaves Class.Head.builder.kind (Class.Head.builder.calls options) recipe.head)
      (enumerationsMade : List.Forall₂ Enumeration.builder.Makes options.enums enumerations)
      (innerSpelled : List.Forall₂ Recipe.Spells classes inner)
      (constructorsMade : List.Forall₂ Constructor.builder.Makes options.constructors constructors)
      (methodsMade : List.Forall₂ Method.builder.Makes options.methods methods)
      (dataMade : List.Forall₂ Variable.builder.Makes options.dataMembers dataMembers)
      (arraysMade : List.Forall₂ ArrayVariable.builder.Makes options.arrays arrays)
      (members : Interleaves Addition.kind
        (Addition.list enumerations inner
          (constructors.map MemberFunction.constructor ++ methods.map MemberFunction.method)
          dataMembers arrays)
        recipe.additions) :
      Recipe.Spells ⟨options, classes⟩ recipe

/-! ## What an interleaving calls for -/

section Selecting

variable {Inner : Type} {enumerations : List Enumeration} {inner : List Inner}
  {functions : List MemberFunction} {dataMembers : List Variable} {arrays : List ArrayVariable}
  {additions : List (Addition Inner)}
  (members : Interleaves Addition.kind
    (Addition.list enumerations inner functions dataMembers arrays) additions)

include members

theorem filterMap_enumeration? : additions.filterMap Addition.enumeration? = enumerations := by
  rw [← members.filterMap_eq .enumeration]
  · simp [Addition.list, Function.comp_def, Addition.enumeration?]
  · rintro ((_ | _ | _ | _) | _) apart <;> first | rfl | exact absurd rfl apart

theorem filterMap_nested? : additions.filterMap Addition.nested? = inner := by
  rw [← members.filterMap_eq .nested]
  · simp [Addition.list, Function.comp_def, Addition.nested?]
  · rintro ((_ | _ | _ | _) | _) apart <;> first | rfl | exact absurd rfl apart

theorem filterMap_function? : additions.filterMap Addition.function? = functions := by
  rw [← members.filterMap_eq .function]
  · simp [Addition.list, Function.comp_def, Addition.function?]
  · rintro ((_ | _ | _ | _) | _) apart <;> first | rfl | exact absurd rfl apart

theorem filterMap_data? : additions.filterMap Addition.data? = dataMembers := by
  rw [← members.filterMap_eq .data]
  · simp [Addition.list, Function.comp_def, Addition.data?]
  · rintro ((_ | _ | _ | _) | _) apart <;> first | rfl | exact absurd rfl apart

theorem filterMap_array? : additions.filterMap Addition.array? = arrays := by
  rw [← members.filterMap_eq .array]
  · simp [Addition.list, Function.comp_def, Addition.array?]
  · rintro ((_ | _ | _ | _) | _) apart <;> first | rfl | exact absurd rfl apart

end Selecting

/-- Elements that calls make are those that their configurations describe. -/
theorem eq_map_of_forall₂_makes {Settings Call Kind Item : Type} [DecidableEq Kind]
    {builder : Builder Settings Call Kind Item} {ofConfig : Settings → Item}
    {configs : List Settings} {items : List Item}
    (made : List.Forall₂ builder.Makes configs items)
    (makes : ∀ config ∈ configs, builder.make config = ofConfig config) :
    items = configs.map ofConfig := by
  induction made with
  | nil => rfl
  | @cons config item configs items isMade _ inductionHypothesis =>
      rcases List.forall_mem_cons.mp makes with ⟨first, rest⟩
      rw [List.map_cons, inductionHypothesis rest, ← first, Builder.eq_make_of_makes isMade]

namespace Recipe.Spells

variable {options : ClassOptions} {classes : List ClassConfig} {config : ClassConfig}
  {recipe : Recipe} {owner : Class}

/-- The members of a recipe that spells a configuration are those that the configuration
describes. -/
theorem parts_eq (spells : Spells ⟨options, classes⟩ recipe) (callable : options.IsCallable)
    (scope : Id) : recipe.parts scope = .ofOptions scope options := by
  rcases spells with ⟨name, head, enumerationsMade, _, constructorsMade, methodsMade, dataMade,
    arraysMade, members⟩
  have sameHead : recipe.finalHead =
      ⟨options.isStruct, options.base, options.documentation⟩ := by
    rw [← Class.Head.make_eq options]
    exact (head.foldl_eq Class.Head.builder.commutes _).symm
  have constructors := eq_map_of_forall₂_makes constructorsMade fun config listed =>
    Constructor.make_eq (callable config listed)
  have methods := eq_map_of_forall₂_makes methodsMade fun config _ => Method.make_eq config
  have functions := filterMap_function? members
  rw [constructors, methods, List.map_map, List.map_map] at functions
  rw [parts, sameHead, name, functions, filterMap_enumeration? members, filterMap_data? members,
    filterMap_array? members,
    eq_map_of_forall₂_makes enumerationsMade fun config _ => Enumeration.make_eq config,
    eq_map_of_forall₂_makes dataMade fun config _ => Variable.make_eq config,
    eq_map_of_forall₂_makes arraysMade fun config _ => ArrayVariable.make_eq config]
  rfl

/-- What a recipe makes that spells a configuration is what the configuration builds. -/
theorem builtFrom (spells : Spells config recipe)
    (callable : config.Everywhere ClassOptions.IsCallable) (makes : recipe.Makes owner) :
    Class.BuiltFrom config owner := by
  induction owner using Class.induction_on generalizing config recipe with
  | step parts nested inductionHypothesis =>
      rcases makes with ⟨scope, inside⟩
      rcases callable with ⟨here, further⟩
      rw [spells.parts_eq here]
      rcases spells with ⟨_, _, _, innerSpelled, _, _, _, _, members⟩
      rw [filterMap_nested? members] at inside
      refine .intro _ scope (forall₂_of_shared innerSpelled.flip inside ?_)
      intro innerRecipe _ innerConfig configListed inner listed innerSpells innerMakes
      exact inductionHypothesis inner listed innerSpells (further innerConfig configListed)
        innerMakes

end Recipe.Spells

/-! ## Units -/

namespace TranslationUnit

/-- The unit after elements have been added to it one by one. -/
def addAll (unit : TranslationUnit) (elements : List Element) : TranslationUnit :=
  elements.foldl add unit

theorem addAll_eq (unit : TranslationUnit) (elements : List Element) :
    unit.addAll elements = ⟨unit.items ++ elements⟩ :=
  foldl_grow add mk (fun _ _ => rfl) unit.items elements

variable {context other : Context} {unit otherUnit : TranslationUnit}

/-- Units whose elements read alike are checked alike. -/
theorem validate_eq_of_readsAlike
    (alike : List.Forall₂ (Element.ReadsAlike context other) unit.items otherUnit.items) :
    unit.validate context = otherUnit.validate other :=
  validateAll_eq_of_forall₂ alike fun _ _ same => same.validate

/-- Units whose elements read alike are written alike. -/
theorem runOn_write_of_readsAlike
    (alike : List.Forall₂ (Element.ReadsAlike context other) unit.items otherUnit.items)
    (side : Side) (sink : Sink) :
    (unit.write context side).runOn sink = (otherUnit.write other side).runOn sink := by
  have items := map_eq_of_forall₂ alike fun _ _ same => same.rendering side.form
  rw [carriesOut_write, carriesOut_write, rendering_eq, rendering_eq,
    validate_eq_of_readsAlike alike, items]

end TranslationUnit

/-- The classes of a built model are built from its configurations and stand alone. -/
theorem Model.exists_standAlone (model : Model) :
    ∃ classes, List.Forall₂ Class.BuiltFrom model.classes classes ∧
      (∀ owner ∈ classes, owner.StandsAlone model.build.2.scopes) ∧
      model.build.1.items =
        (model.functions.map FreeFunction.ofConfig).map .function ++ classes.map .classType := by
  rcases model.build_eq with ⟨classes, built, -, complete⟩
  rcases model.exists_workspace with ⟨workspace, ⟨program, untouched, followed⟩, same, made⟩
  refine ⟨classes, built, fun owner listed => ?_, congrArg TranslationUnit.items complete⟩
  have inUnit : .classType owner ∈ model.build.1.items := by
    rw [complete]
    exact List.mem_append_right _ (List.mem_map_of_mem listed)
  rw [made, TranslationUnit.ofFunctionsAndClasses] at inUnit
  have isMade : owner ∈ workspace.classes := by simpa using inUnit
  rw [← same]
  apply Workspace.untouchedStandAlone_follow followed owner isMade
  rw [untouched]
  exact fun _ _ => List.not_mem_nil

/-- A model whose constructors have neither modifiers nor a return type is built into a unit
that cannot be told from one that calls have made: from functions and classes as the model
describes them, the classes made on a bench by recipes that spell their configurations.  The
units are checked alike, and both sides are written alike to every sink. -/
theorem Model.built_and_called_for_alike (model : Model)
    (callable : ∀ config ∈ model.classes, config.Everywhere ClassOptions.IsCallable)
    {calls : List Bench.Call} {bench : Bench} (ran : Bench.run calls {} = some bench)
    {functions : List FreeFunction} {drafts : List Draft}
    (functionsMade : List.Forall₂ FreeFunction.builder.Makes model.functions functions)
    (onBench : ∀ draft ∈ drafts, draft ∈ bench.drafts)
    (spelled : List.Forall₂ (fun config draft => draft.recipe.Spells config) model.classes drafts) :
    let unit := TranslationUnit.empty.addAll
      (functions.map .function ++ drafts.map (.classType ·.made))
    unit.validate (.ofScopes bench.forest) = model.build.1.validate model.build.2 ∧
      ∀ side sink, (unit.write (.ofScopes bench.forest) side).runOn sink =
        (model.build.1.write model.build.2 side).runOn sink := by
  intro unit
  rcases model.exists_standAlone with ⟨classes, built, stand, complete⟩
  have sound := Bench.Sound.empty.run ran
  have sameFunctions := eq_map_of_forall₂_makes functionsMade fun config _ =>
    FreeFunction.make_eq config
  have functionsAlike : List.Forall₂ (Element.ReadsAlike (.ofScopes bench.forest) model.build.2)
      (functions.map .function) ((model.functions.map FreeFunction.ofConfig).map .function) := by
    rw [sameFunctions, List.forall₂_same, List.forall_mem_map]
    exact fun function _ => ⟨rfl, fun form => by cases form <;> rfl⟩
  have classesAlike : List.Forall₂ (Element.ReadsAlike (.ofScopes bench.forest) model.build.2)
      (drafts.map (.classType ·.made)) (classes.map .classType) := by
    rw [List.forall₂_map_left_iff, List.forall₂_map_right_iff]
    apply forall₂_of_shared spelled built
    intro config described draft drafted owner listed spells ownerBuilt
    have draftBuilt := spells.builtFrom (callable config described)
      (sound.made draft (onBench draft drafted))
    have draftStands := sound.standAlone draft.made
      (List.mem_map_of_mem (onBench draft drafted)) fun _ _ => List.not_mem_nil
    exact (draftBuilt.twins_resemble ownerBuilt draftStands (stand owner listed)).readsAlike _
  have alike : List.Forall₂ (Element.ReadsAlike (.ofScopes bench.forest) model.build.2)
      unit.items model.build.1.items := by
    have added := congrArg TranslationUnit.items
      (TranslationUnit.addAll_eq .empty (functions.map .function ++ drafts.map (.classType ·.made)))
    rw [added, complete]
    exact List.rel_append functionsAlike classesAlike
  exact ⟨TranslationUnit.validate_eq_of_readsAlike alike,
    TranslationUnit.runOn_write_of_readsAlike alike⟩

namespace Radio

/-- The type that the members of the class use. -/
def band : EnumConfig := { name := "Band", items := ["Short", "Long"] }

/-- A constructor with an argument and an initializer. -/
def construct : ConstructorConfig :=
  { name := "Radio", arguments := ["Band band"], initializers := ["m_band(band)"],
    implementation := some [] }

/-- A method that returns the type of the class. -/
def tuned : MethodConfig :=
  { name := "tuned", returnType := some "Band", modifiers := { isConst := true },
    implementation := some ["return m_band;"] }

/-- A variable of the type of the class. -/
def member : VariableConfig := { name := "m_band", type := "Band" }

/-- The variable of the struct inside. -/
def angle : VariableConfig := { name := "angle", type := "int" }

/-- A function beside the class. -/
def version : FunctionConfig :=
  { name := "version", returnType := some "int", implementation := some ["return 2;"] }

/-- A class with members of several kinds and with a struct inside. -/
def radio : ClassConfig :=
  ⟨{ name := "Radio", documentation := some "/// Receives.", enums := [band],
     constructors := [construct], methods := [tuned], dataMembers := [member] },
    [⟨{ name := "Dial", isStruct := true, dataMembers := [angle] }, []⟩]⟩

/-- The function and the class. -/
def model : Model := { functions := [version], classes := [radio] }

/-- Calls that make the class: the type that the others use is the last member. -/
def calls : List Bench.Call :=
  [.create "Radio", .add (.data (Variable.builder.make member)),
    .add (.function (.constructor (Constructor.builder.make construct))),
    .create "Dial", .add (.data (Variable.builder.make angle)), .head .struct, .nest,
    .head (.document "/// Receives."),
    .add (.function (.method (Method.builder.make tuned))),
    .add (.enumeration (Enumeration.builder.make band))]

/-- What has been called for on the class. -/
def recipe : Recipe :=
  ⟨"Radio", [.document "/// Receives."],
    [.member (.data (Variable.builder.make member)),
      .member (.function (.constructor (Constructor.builder.make construct))),
      .nested ⟨"Dial", [.struct], [.member (.data (Variable.builder.make angle))]⟩,
      .member (.function (.method (Method.builder.make tuned))),
      .member (.enumeration (Enumeration.builder.make band))]⟩

end Radio

open Radio in
/-- The class that the calls make reads like the configured one. -/
theorem radio_reads_as_configured :
    ∃ bench draft, Bench.run calls {} = some bench ∧ draft ∈ bench.drafts ∧
      draft.recipe.Spells radio ∧
      ∀ side sink,
        ((TranslationUnit.empty.addAll
          [.function (FreeFunction.builder.make version), .classType draft.made]).write
            (.ofScopes bench.forest) side).runOn sink =
          (model.build.1.write model.build.2 side).runOn sink := by
  have ran : Bench.run calls {} = some _ := rfl
  have callable : radio.Everywhere ClassOptions.IsCallable := by
    constructor
    · exact List.forall_mem_singleton.mpr ⟨rfl, rfl⟩
    · refine List.forall_mem_singleton.mpr ⟨List.forall_mem_nil _, List.forall_mem_nil _⟩
  have dialSpelled : Recipe.Spells
      ⟨{ name := "Dial", isStruct := true, dataMembers := [angle] }, []⟩
      ⟨"Dial", [.struct], [.member (.data (Variable.builder.make angle))]⟩ :=
    .intro rfl (.refl _) .nil .nil .nil .nil (.cons (Variable.builder.makes_make _) .nil) .nil
      (.refl _)
  have spelled : recipe.Spells radio :=
    .intro rfl (.refl _) (.cons (Enumeration.builder.makes_make _) .nil) (.cons dialSpelled .nil)
      (.cons (Constructor.builder.makes_make _) .nil) (.cons (Method.builder.makes_make _) .nil)
      (.cons (Variable.builder.makes_make _) .nil) .nil fun asked => by cases asked <;> rfl
  have alike := model.built_and_called_for_alike (List.forall_mem_singleton.mpr callable) ran
    (.cons (FreeFunction.builder.makes_make _) .nil)
    (List.forall_mem_singleton.mpr List.mem_cons_self) (.cons spelled .nil)
  exact ⟨_, _, ran, List.mem_cons_self, spelled, alike.2⟩

end CppModel
