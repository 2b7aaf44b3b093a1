import CppModel.Proofs.Class.Tree

/-!
# Programs

A program performs operations on a workspace, and gives classes their heads: the keyword,
the base and the documentation.  Whatever a program does, its forest is acyclic, its owners
keep account of the scopes, and the members of its classes are linked.

Building a model is a program.  The classes of the model are created one after another,
each inner class behind the outer one that it is then moved into, and no scope is nested
and no type is recorded by hand.  What holds for programs therefore holds for models.
-/

namespace CppModel

open Scope Config

/-- What a class has in front of its braces, apart from its name. -/
structure Class.Head where
  isStruct : Bool := false
  base : Option String := none
  documentation : Option String := none

/-- The class with another head. -/
def Class.withHead (owner : Class) (head : Class.Head) : Class :=
  { owner with parts := { owner.parts with
      isStruct := head.isStruct
      base := head.base
      documentation := head.documentation } }

namespace Workspace

/-- What a program does in a workspace. -/
inductive Action
  | operate (operation : Operation)
  | setHead (owner : Id) (head : Class.Head)

/-- Carry out an action on a workspace that has what it speaks of. -/
def act (workspace : Workspace) : Action → Option Workspace
  | .operate operation => workspace.perform operation
  | .setHead owner head => do
      let (owner, others) ← take? owner workspace.classes
      some { workspace with classes := owner.withHead head :: others }

/-- Carry out the actions of a program one after another. -/
def follow : List Action → Workspace → Option Workspace
  | [], workspace => some workspace
  | action :: rest, workspace => (workspace.act action).bind (follow rest)

theorem follow_append (first second : List Action) (workspace : Workspace) :
    follow (first ++ second) workspace = (follow first workspace).bind (follow second) := by
  induction first generalizing workspace with
  | nil => rfl
  | cons action rest inductionHypothesis =>
      rw [List.cons_append, follow, follow, Option.bind_assoc]
      exact congrArg _ (funext inductionHypothesis)

/-- A property that the actions of a program preserve holds after the program. -/
theorem follow_induction {program : List Action} (holds : Workspace → Prop)
    (step : ∀ action ∈ program, ∀ workspace next, holds workspace →
      workspace.act action = some next → holds next) :
    ∀ workspace last, holds workspace → follow program workspace = some last → holds last := by
  induction program with
  | nil =>
      rintro workspace last initial followed
      cases followed
      exact initial
  | cons action rest inductionHypothesis =>
      intro workspace last initial followed
      rcases Option.bind_eq_some_iff.mp followed with ⟨next, acted, restFollowed⟩
      rcases List.forall_mem_cons.mp step with ⟨firstStep, restSteps⟩
      exact inductionHypothesis restSteps next last (firstStep workspace next initial acted)
        restFollowed

/-- What holds of all classes holds of one that is taken, and of the other ones. -/
theorem forall_mem_of_perm_cons {classes others : List Class} {owner : Class}
    {holds : Class → Prop} (all : ∀ other ∈ classes, holds other)
    (permuted : classes.Perm (owner :: others)) : holds owner ∧ ∀ other ∈ others, holds other := by
  rw [← List.forall_mem_cons]
  intro other listed
  exact all other (permuted.mem_iff.mpr listed)

theorem act_setHead {workspace next : Workspace} {scope : Id} {head : Class.Head}
    (acted : workspace.act (.setHead scope head) = some next) :
    ∃ owner others, workspace.classes.Perm (owner :: others) ∧ owner.parts.scope = scope ∧
      next = { workspace with classes := owner.withHead head :: others } := by
  rw [act, Option.bind_eq_bind, Option.bind_eq_some_iff] at acted
  rcases acted with ⟨⟨owner, others⟩, taken, changed⟩
  cases changed
  rcases take?_perm taken with ⟨isScope, permuted⟩
  exact ⟨owner, others, permuted, isScope, rfl⟩

/-! ## What every program preserves -/

variable {workspace next : Workspace} {program : List Action}

theorem hasLinkedMembers_perform
    (linked : ∀ owner ∈ workspace.classes, owner.HasLinkedMembers) {operation : Operation}
    (performed : workspace.perform operation = some next) :
    ∀ owner ∈ next.classes, owner.HasLinkedMembers := by
  cases operation with
  | createScope name =>
      cases performed
      exact linked
  | createClass name =>
      cases performed
      exact List.forall_mem_cons.mpr ⟨Class.hasLinkedMembers_create name _, linked⟩
  | attach scope link =>
      cases perform_attach performed
      exact linked
  | declareType scope type =>
      cases perform_declareType performed
      exact linked
  | addMember scope member =>
      rcases perform_addMember performed with ⟨owner, others, permuted, _, rfl⟩
      obtain ⟨ownLinked, othersLinked⟩ := forall_mem_of_perm_cons linked permuted
      rw [List.forall_mem_cons]
      exact ⟨Class.hasLinkedMembers_addMember ownLinked member _, othersLinked⟩
  | addClass scope innerScope =>
      rcases perform_addClass performed with ⟨owner, inner, others, permuted, _, _, rfl⟩
      obtain ⟨ownLinked, furtherLinked⟩ := forall_mem_of_perm_cons linked permuted
      obtain ⟨innerLinked, othersLinked⟩ := List.forall_mem_cons.mp furtherLinked
      rw [List.forall_mem_cons]
      exact ⟨Class.hasLinkedMembers_addClass ownLinked innerLinked _, othersLinked⟩
  | dropScope scope =>
      rcases perform_dropScope performed with ⟨_, rfl⟩
      exact linked
  | dropClass scope =>
      rcases perform_dropClass performed with ⟨owner, others, permuted, _, rfl⟩
      exact (forall_mem_of_perm_cons linked permuted).2

/-- The forest is acyclic, the owners keep account of the scopes, and the members of classes
are linked. -/
structure Sound (workspace : Workspace) : Prop where
  acyclic : workspace.forest.Acyclic
  accounts : Accounts workspace.forest workspace.owned
  linked : ∀ owner ∈ workspace.classes, owner.HasLinkedMembers

theorem Sound.empty : Sound {} where
  acyclic := Forest.acyclic_empty
  accounts := .empty
  linked := List.forall_mem_nil _

/-- A head makes no difference to the scopes and the members of a class. -/
theorem Sound.setHead {owner : Class} {others : List Class} (sound : workspace.Sound)
    (permuted : workspace.classes.Perm (owner :: others)) (head : Class.Head) :
    Sound { workspace with classes := owner.withHead head :: others } where
  acyclic := sound.acyclic
  accounts := by
    apply sound.accounts.perm
    apply (scopesOfAll_perm permuted).append_left workspace.scopes |>.trans
    cases owner
    exact .refl _
  linked := by
    obtain ⟨ownLinked, othersLinked⟩ := forall_mem_of_perm_cons sound.linked permuted
    obtain ⟨⟨enumerations, functions, dataMembers, arrays⟩, nestedLinked⟩ :=
      (Class.hasLinkedMembers_iff owner).mp ownLinked
    rw [List.forall_mem_cons, Class.hasLinkedMembers_iff]
    exact ⟨⟨⟨enumerations, functions, dataMembers, arrays⟩, nestedLinked⟩, othersLinked⟩

theorem Sound.perform (sound : workspace.Sound) {operation : Operation}
    (performed : workspace.perform operation = some next) : next.Sound where
  acyclic := acyclic_perform sound.acyclic performed
  accounts := accounts_perform sound.accounts performed
  linked := hasLinkedMembers_perform sound.linked performed

theorem Sound.act (sound : workspace.Sound) {action : Action}
    (acted : workspace.act action = some next) : next.Sound := by
  cases action with
  | operate operation => exact sound.perform acted
  | setHead scope head =>
      rcases act_setHead acted with ⟨owner, others, permuted, _, rfl⟩
      exact sound.setHead permuted head

/-- Every program leaves a sound workspace. -/
theorem Sound.follow (sound : workspace.Sound) (followed : follow program workspace = some next) :
    next.Sound :=
  follow_induction Sound (fun _ _ _ _ sound acted => sound.act acted) workspace next sound followed

/-- In a sound workspace, every class is kept. -/
theorem Sound.isKept (sound : workspace.Sound) {owner : Class}
    (listed : owner ∈ workspace.classes) : owner.IsKept workspace.forest := by
  rw [Class.isKept_iff]
  refine ⟨sound.linked owner listed, ?_⟩
  intro scope owned
  rw [sound.accounts.alive, Workspace.owned, scopesOfAll_eq_flatMap]
  exact List.mem_append_right _ (List.mem_flatMap.mpr ⟨owner, listed, owned⟩)

/-- The scopes of two classes in a sound workspace are apart. -/
theorem Sound.scopes_apart {owner : Class} {others : List Class} (sound : workspace.Sound)
    (permuted : workspace.classes.Perm (owner :: others)) :
    owner.scopes.Nodup ∧ ∀ scope ∈ owner.scopes, ∀ other ∈ others, scope ∉ other.scopes := by
  have distinct := (List.nodup_append.mp sound.accounts.distinct).2.1
  rw [(scopesOfAll_perm permuted).nodup_iff, scopesOfAll_eq_flatMap, List.flatMap_cons] at distinct
  constructor
  · exact (List.nodup_append.mp distinct).1
  · intro scope owned other listed alsoOwned
    exact List.disjoint_of_nodup_append distinct owned
      (List.mem_flatMap.mpr ⟨other, listed, alsoOwned⟩)

/-! ## Programs that touch no scope by hand -/

/-- The scope that an action nests or declares a type in, unless the class that owns the
scope does so. -/
def Action.touched : Action → List Id
  | .operate (.attach scope _) => [scope]
  | .operate (.declareType scope _) => [scope]
  | _ => []

/-- A program that touches no scope by hand leads from one workspace to the other. -/
def Leads (workspace next : Workspace) : Prop :=
  ∃ program, program.flatMap Action.touched = [] ∧ follow program workspace = some next

namespace Leads

variable {last : Workspace}

theorem refl (workspace : Workspace) : workspace.Leads workspace :=
  ⟨[], rfl, rfl⟩

theorem trans (first : workspace.Leads next) (second : next.Leads last) :
    workspace.Leads last := by
  rcases first with ⟨program, untouched, followed⟩
  rcases second with ⟨rest, restUntouched, restFollowed⟩
  refine ⟨program ++ rest, ?_, ?_⟩
  · rw [List.flatMap_append, untouched, restUntouched, List.append_nil]
  · rw [follow_append, followed]
    exact restFollowed

theorem of_act (action : Action) (untouched : action.touched = [])
    (acted : workspace.act action = some next) : workspace.Leads next := by
  refine ⟨[action], ?_, ?_⟩
  · rw [List.flatMap_singleton, untouched]
  · rw [follow, acted]
    rfl

theorem sound (leads : workspace.Leads next) (sound : workspace.Sound) : next.Sound := by
  rcases leads with ⟨program, _, followed⟩
  exact sound.follow followed

end Leads

/-! ## Building is a program -/

/-- The workspace with a class that has just been made, and the forest that this left. -/
def holding (workspace : Workspace) (made : Class × Forest) : Workspace :=
  { workspace with forest := made.2, classes := made.1 :: workspace.classes }

theorem take?_head (owner : Class) (others : List Class) :
    take? owner.parts.scope (owner :: others) = some (owner, others) :=
  if_pos rfl

variable {owner inner : Class}

theorem leads_create (workspace : Workspace) (name : String) :
    workspace.Leads (workspace.holding ((Class.create name).run workspace.forest)) :=
  .of_act (.operate (.createClass name)) rfl rfl

theorem leads_setHead (workspace : Workspace) (owner : Class) (head : Class.Head)
    (forest : Forest) :
    (workspace.holding (owner, forest)).Leads
      (workspace.holding (owner.withHead head, forest)) := by
  apply Leads.of_act (.setHead owner.parts.scope head) rfl
  have taken := take?_head owner workspace.classes
  simp only [act, holding, taken, Option.bind_eq_bind, Option.bind_some]

theorem leads_addMember (workspace : Workspace) (owner : Class) (member : Member)
    (forest : Forest) :
    (workspace.holding (owner, forest)).Leads
      (workspace.holding ((owner.addMember member).run forest)) := by
  apply Leads.of_act (.operate (.addMember owner.parts.scope member)) rfl
  have taken := take?_head owner workspace.classes
  simp only [act, perform, holding, taken, Option.bind_eq_bind, Option.bind_some]
  rfl

/-- The inner class has been made behind the outer one, and is moved into it. -/
theorem leads_addClass (workspace : Workspace) {before forest : Forest}
    (apart : inner.parts.scope ≠ owner.parts.scope) :
    ((workspace.holding (owner, before)).holding (inner, forest)).Leads
      (workspace.holding ((owner.addClass inner).run forest)) := by
  apply Leads.of_act (.operate (.addClass owner.parts.scope inner.parts.scope)) rfl
  have taken : take? owner.parts.scope (inner :: owner :: workspace.classes) =
      some (owner, inner :: workspace.classes) := by
    rw [take?, if_neg apart, take?_head]
    rfl
  have innerTaken := take?_head inner workspace.classes
  simp only [act, perform, holding, taken, innerTaken, Option.bind_eq_bind, Option.bind_some]
  rfl

section Members

variable (workspace : Workspace) (owner : Class) (forest : Forest)

theorem leads_addEnumerations (enumerations : List Enumeration) :
    (workspace.holding (owner, forest)).Leads
      (workspace.holding ((owner.addEnumerations enumerations).run forest)) := by
  induction enumerations generalizing owner forest with
  | nil => exact .refl _
  | cons first rest inductionHypothesis =>
      have added := workspace.leads_addMember owner (.enumeration first) forest
      exact added.trans (inductionHypothesis _ _)

theorem leads_addFunctions (functions : List MemberFunction) :
    (workspace.holding (owner, forest)).Leads
      (workspace.holding (owner.addFunctions functions, forest)) := by
  induction functions generalizing owner with
  | nil => exact .refl _
  | cons first rest inductionHypothesis =>
      have added := workspace.leads_addMember owner (.function first) forest
      exact added.trans (inductionHypothesis _)

theorem leads_addVariables (members : List Variable) :
    (workspace.holding (owner, forest)).Leads
      (workspace.holding (owner.addVariables members, forest)) := by
  induction members generalizing owner with
  | nil => exact .refl _
  | cons first rest inductionHypothesis =>
      have added := workspace.leads_addMember owner (.data first) forest
      exact added.trans (inductionHypothesis _)

theorem leads_addArrays (arrays : List ArrayVariable) :
    (workspace.holding (owner, forest)).Leads
      (workspace.holding (owner.addArrays arrays, forest)) := by
  induction arrays generalizing owner with
  | nil => exact .refl _
  | cons first rest inductionHypothesis =>
      have added := workspace.leads_addMember owner (.array first) forest
      exact added.trans (inductionHypothesis _)

end Members

mutual

/-- A class is built from a configuration by a program. -/
theorem leads_ofConfig :
    (config : ClassConfig) → (workspace : Workspace) → workspace.Sound →
      workspace.Leads (workspace.holding ((Class.ofConfig config).run workspace.forest))
  | ⟨options, classes⟩, workspace => by
      intro sound
      have created := (workspace.leads_create options.name).trans
        (workspace.leads_setHead _ ⟨options.isStruct, options.base, options.documentation⟩ _)
      have enumerated := created.trans
        (workspace.leads_addEnumerations _ _ (options.enums.map .ofConfig))
      have filled := enumerated.trans
        (leads_addNestedOfConfig classes workspace _ _ (enumerated.sound sound))
      have withFunctions := filled.trans
        (workspace.leads_addFunctions _ _ (Class.functionsOfConfig options))
      have withVariables := withFunctions.trans
        (workspace.leads_addVariables _ _ (options.dataMembers.map .ofConfig))
      rw [Class.ofConfig]
      exact withVariables.trans (workspace.leads_addArrays _ _ (options.arrays.map .ofConfig))

/-- The classes of a list are built one after another, and each is moved into the class in
front. -/
theorem leads_addNestedOfConfig :
    (configs : List ClassConfig) → (workspace : Workspace) → (owner : Class) →
      (forest : Forest) → (workspace.holding (owner, forest)).Sound →
      (workspace.holding (owner, forest)).Leads
        (workspace.holding ((Class.addNestedOfConfig configs owner).run forest))
  | [], workspace, owner, forest => by
      intro _
      rw [Class.addNestedOfConfig]
      exact .refl _
  | config :: rest, workspace, owner, forest => by
      intro sound
      have built := leads_ofConfig config (workspace.holding (owner, forest)) sound
      have apart : ((Class.ofConfig config).run forest).1.parts.scope ≠ owner.parts.scope := by
        intro same
        apply ((built.sound sound).scopes_apart (.refl _)).2 _ (Class.scope_mem_scopes _) owner
          List.mem_cons_self
        exact same ▸ owner.scope_mem_scopes
      have added := built.trans (workspace.leads_addClass apart)
      rw [Class.addNestedOfConfig]
      exact added.trans (leads_addNestedOfConfig rest workspace _ _ (added.sound sound))

end

/-- The classes of a unit are built by a program, the last one at the head of the
workspace. -/
theorem leads_addClassesOfConfig (configs : List ClassConfig) (unit : TranslationUnit)
    (workspace : Workspace) (sound : workspace.Sound) :
    ∃ (classes : List Class) (next : Workspace), workspace.Leads next ∧
      next.classes = classes.reverse ++ workspace.classes ∧
      (unit.addClassesOfConfig configs).run workspace.forest =
        (⟨unit.items ++ classes.map .classType⟩, next.forest) := by
  induction configs generalizing unit workspace with
  | nil =>
      refine ⟨[], workspace, .refl _, rfl, ?_⟩
      rw [TranslationUnit.addClassesOfConfig, List.map_nil, List.append_nil]
      rfl
  | cons config rest inductionHypothesis =>
      have built := leads_ofConfig config workspace sound
      obtain ⟨classes, next, leads, complete, rendered⟩ :=
        inductionHypothesis (unit.add (.classType ((Class.ofConfig config).run workspace.forest).1))
          _ (built.sound sound)
      refine ⟨((Class.ofConfig config).run workspace.forest).1 :: classes, next,
        built.trans leads, ?_, ?_⟩
      · rw [complete, List.reverse_cons, List.append_assoc]
        rfl
      · rw [List.map_cons, List.append_cons]
        exact rendered

end Workspace

/-- The classes of the unit that is built from a model are those of a workspace that a
program has filled without touching a scope by hand. -/
theorem Model.exists_workspace (model : Model) :
    ∃ workspace, Workspace.Leads {} workspace ∧ workspace.forest = model.build.2.scopes ∧
      model.build.1 =
        .ofFunctionsAndClasses (model.functions.map .ofConfig) workspace.classes.reverse := by
  have built := Workspace.leads_addClassesOfConfig model.classes
    ⟨model.functions.map fun function => Element.function (.ofConfig function)⟩ {} .empty
  rcases built with ⟨classes, workspace, leads, complete, rendered⟩
  refine ⟨workspace, leads, (congrArg Prod.snd rendered).symm, ?_⟩
  refine (congrArg Prod.fst rendered).trans ?_
  rw [complete, TranslationUnit.ofFunctionsAndClasses, List.map_map, List.append_nil,
    List.reverse_reverse]
  rfl

/-! ## Classes and units -/

/-- The classes that a program can come by: those of its workspace, and the classes inside
them. -/
def Class.Arises (forest : Forest) (owner : Class) : Prop :=
  ∃ program workspace, Workspace.follow program {} = some workspace ∧
    workspace.forest = forest ∧ ∃ outer ∈ workspace.classes, owner ∈ outer.tree

theorem Class.Arises.isKept {forest : Forest} {owner : Class} (arises : owner.Arises forest) :
    owner.IsKept forest := by
  rcases arises with ⟨program, workspace, followed, rfl, outer, made, inTree⟩
  have outerKept := (Workspace.Sound.empty.follow followed).isKept made
  intro inner inside
  exact outerKept inner (Class.mem_tree_of_mem_tree inside inTree)

namespace TranslationUnit

/-- The units of functions and classes that a program can come by. -/
def Arises (forest : Forest) (unit : TranslationUnit) : Prop :=
  ∃ program workspace, Workspace.follow program {} = some workspace ∧
    workspace.forest = forest ∧
    ∀ element ∈ unit.items, element.IsFunctionOrClass (· ∈ workspace.classes)

variable {forest : Forest} {unit : TranslationUnit}

theorem Arises.isKept (arises : unit.Arises forest) : unit.IsKept forest := by
  rcases arises with ⟨program, workspace, followed, rfl, items⟩
  intro element listed
  exact (items element listed).imp fun owner _ => (Workspace.Sound.empty.follow followed).isKept

/-- A unit of any functions and of classes that a program has made. -/
theorem arises_ofFunctionsAndClasses {program : List Workspace.Action} {workspace : Workspace}
    (followed : Workspace.follow program {} = some workspace) (functions : List FreeFunction)
    {classes : List Class} (made : ∀ owner ∈ classes, owner ∈ workspace.classes) :
    (ofFunctionsAndClasses functions classes).Arises workspace.forest := by
  refine ⟨program, workspace, followed, rfl, ?_⟩
  rw [ofFunctionsAndClasses, List.forall_mem_append]
  constructor
  · exact List.forall_mem_map.mpr fun _ _ => trivial
  · exact List.forall_mem_map.mpr made

/-- The unit that is built from a model is one that a program can come by. -/
theorem arises_build (model : Model) : model.build.1.Arises model.build.2.scopes := by
  rcases model.exists_workspace with ⟨workspace, ⟨program, _, followed⟩, sameForest, complete⟩
  rw [complete, ← sameForest]
  exact arises_ofFunctionsAndClasses followed _ fun owner listed => List.mem_reverse.mp listed

end TranslationUnit

end CppModel
