import CppModel.Proofs.Class.Lineage
import CppModel.Proofs.Pieces.Classes

/-!
# How definitions spell types

A definition stands outside of its class, so a type that is declared in the class or in one
around it has to be named with the classes around the type.  The definition of a method
spells its return type so, and the definition of a static variable its type.

The definition of a static array does not: it spells the type as the declaration does,
which names nothing outside of the class if the type is declared inside.
-/

namespace CppModel

open Scope
open Scope.Forest (names)
open Rendering (bind_eq_ok_iff)

namespace Element

/-- The type that a member carries, if the source has to define the member. -/
def definedType? : Element → Option String
  | .member (.method content) => if content.needsDefinition then content.returnType else none
  | .data content => if content.needsDefinition then some content.type else none
  | .array content => if content.needsDefinition then some content.type else none
  | _ => none

theorem definedType?_method_eq_some_iff (method : Method) (type : String) :
    (Element.member (.method method)).definedType? = some type ↔
      method.needsDefinition = true ∧ method.returnType = some type := by
  simp [definedType?]

theorem definedType?_data_eq_some_iff (data : Variable) (type : String) :
    (Element.data data).definedType? = some type ↔
      data.needsDefinition = true ∧ data.type = type := by
  simp [definedType?]

theorem definedType?_array_eq_some_iff (array : ArrayVariable) (type : String) :
    (Element.array array).definedType? = some type ↔
      array.needsDefinition = true ∧ array.type = type := by
  simp [definedType?]

/-- The definition of a member with a spelling of the type that it carries. -/
def definedAs (context : Context) (spelling : String) : Element → Script
  | .member (.method content) =>
      Script.ofDoc content.documentation ++
        [.block (Declarator.join [spelling,
          Declarator.signature (content.fullName context) content.arguments,
          Declarator.keyword content.modifiers.isConst Modifier.const.word]) ""
          (content.body.getD [])]
  | .data content =>
      Script.ofDoc content.documentation ++
        [.line (Variable.lineOf (Declarator.join [
          Declarator.keyword content.isConst Modifier.const.word, spelling,
          content.fullName context]) content.value)]
  | .array content =>
      Script.ofDoc content.documentation ++
        [.line (content.initializedLine (Declarator.join [
          Declarator.keyword content.isConst Modifier.const.word, spelling])
          (content.fullName context))]
  | _ => []

/-- Whether the element is an array. -/
def isArray : Element → Bool
  | .array _ => true
  | _ => false

end Element

namespace Class

/-- The definition of every member, at any depth, spells the type that the member carries
as it resolves from the class of the member. -/
def SpellsResolved (context : Context) (owner : Class) : Prop :=
  ∀ inner ∈ owner.tree, ∀ element ∈ inner.parts.elements, ∀ type,
    element.definedType? = some type → ∀ script, element.definition context = .ok script →
      script = element.definedAs context
        (context.scopes.resolveType inner.memberLink type scopeSeparator)

end Class

/-! ## Definitions -/

theorem Method.definition_eq_definedAs {context : Context} {method : Method} {type : String}
    {script : Script} (carries : (Element.member (.method method)).definedType? = some type)
    (defined : method.definition context = .ok script) :
    script = (Element.member (.method method)).definedAs context
      (context.scopes.resolveType method.link type scopeSeparator) := by
  rcases (Element.definedType?_method_eq_some_iff _ _).mp carries with ⟨needed, isType⟩
  rcases (bind_eq_ok_iff _ _ _).mp defined with ⟨_, _, afterCheck⟩
  cases pureVirtual : method.modifiers.isPureVirtual with
  | true => simp [needsDefinition, pureVirtual] at needed
  | false =>
      rw [pureVirtual] at afterCheck
      rcases (bind_eq_ok_iff _ _ _).mp afterCheck with ⟨content, required, complete⟩
      rw [requireBody_eq_ok_iff] at required
      cases complete
      rw [Element.definedAs, outerHeader, outerReturnType, isType, required]
      rfl

theorem Variable.definition_eq_definedAs {context : Context} {data : Variable} {type : String}
    {script : Script} (attached : context.scopes.isAttached data.link = true)
    (carries : (Element.data data).definedType? = some type)
    (defined : data.definition context = .ok script) :
    script = (Element.data data).definedAs context
      (context.scopes.resolveType data.link type scopeSeparator) := by
  rcases (Element.definedType?_data_eq_some_iff _ _).mp carries with ⟨needed, rfl⟩
  rcases (bind_eq_ok_iff _ _ _).mp defined with ⟨_, _, complete⟩
  rw [attached, needed] at complete
  cases complete
  rfl

theorem ArrayVariable.definition_eq_definedAs {context : Context} {array : ArrayVariable}
    {type : String} {script : Script} (attached : context.scopes.isAttached array.link = true)
    (carries : (Element.array array).definedType? = some type)
    (defined : array.definition context = .ok script) :
    script = (Element.array array).definedAs context type := by
  rcases (Element.definedType?_array_eq_some_iff _ _).mp carries with ⟨needed, rfl⟩
  rcases (bind_eq_ok_iff _ _ _).mp defined with ⟨_, _, complete⟩
  rw [attached, needed] at complete
  cases complete
  rfl

namespace Class

/-- The definitions of a class are those of the classes in its tree. -/
theorem definitions_eq_flatMap_tree (context : Context) (owner : Class) :
    owner.definitions context =
      owner.tree.flatMap fun inner => inner.parts.definitions context := by
  induction owner using induction_on with
  | step parts nested inductionHypothesis =>
      rw [definitions_eq, tree_eq, List.flatMap_cons, List.flatMap_assoc,
        List.flatMap_congr inductionHypothesis]

/-- A member that carries a type for its definition is defined with the class. -/
theorem definition_mem_definitions {context : Context} {owner inner : Class}
    (inTree : inner ∈ owner.tree) {element : Element} (listed : element ∈ inner.parts.elements)
    {type : String} (carries : element.definedType? = some type) :
    element.definition context ∈ owner.definitions context := by
  rw [definitions_eq_flatMap_tree]
  apply List.mem_flatMap.mpr
  refine ⟨inner, inTree, ?_⟩
  rw [ClassParts.definitions]
  cases element, listed using ClassParts.mem_elements_cases with
  | enumeration content _ => cases carries
  | data content isMember =>
      rcases (Element.definedType?_data_eq_some_iff _ _).mp carries with ⟨needed, _⟩
      have isDefined := List.mem_filter.mpr ⟨isMember, needed⟩
      exact List.mem_append_left _ (List.mem_append_left _ (List.mem_map_of_mem isDefined))
  | array content isMember =>
      rcases (Element.definedType?_array_eq_some_iff _ _).mp carries with ⟨needed, _⟩
      have isDefined := List.mem_filter.mpr ⟨isMember, needed⟩
      exact List.mem_append_left _ (List.mem_append_right _ (List.mem_map_of_mem isDefined))
  | function content isMember =>
      cases content with
      | method content =>
          rcases (Element.definedType?_method_eq_some_iff _ _).mp carries with ⟨needed, _⟩
          have isDefined : .method content ∈ inner.parts.functions.filter (·.needsDefinition) :=
            List.mem_filter.mpr ⟨isMember, needed⟩
          exact List.mem_append_right _ (List.mem_map_of_mem isDefined)
      | constructor content => cases carries

/-- In a kept class, arrays spell the type as it is declared, and all other members as it
resolves from their class. -/
theorem definition_eq_definedAs {context : Context} {inner : Class}
    (kept : inner.parts.IsKept context.scopes) {element : Element}
    (listed : element ∈ inner.parts.elements) {type : String}
    (carries : element.definedType? = some type) {script : Script}
    (defined : element.definition context = .ok script) :
    script = element.definedAs context
      (if element.isArray then type
      else context.scopes.resolveType inner.memberLink type scopeSeparator) := by
  cases element, listed using ClassParts.mem_elements_cases with
  | enumeration content _ => cases carries
  | data content isMember =>
      have link : content.link = inner.memberLink := kept.1.dataMembers content isMember
      rw [← link]
      exact Variable.definition_eq_definedAs (kept.isAttached_data isMember) carries defined
  | array content isMember =>
      exact ArrayVariable.definition_eq_definedAs (kept.isAttached_array isMember) carries defined
  | function content isMember =>
      cases content with
      | method content =>
          have link : content.link = inner.memberLink := kept.1.functions _ isMember
          rw [← link]
          exact Method.definition_eq_definedAs carries defined
      | constructor content => cases carries

end Class

/-- After any program, the definition of a member that carries a type is one of the
definitions of its class.  The members of every class but its arrays spell the type as it
resolves from their class: with the names of the scope that declares it and of all scopes
around, if the leading name of the type is declared on the walk from the class, and
unchanged otherwise.  An array spells the type as it is declared. -/
theorem definitions_spell_types {program : List Workspace.Action} {workspace : Workspace}
    (followed : Workspace.follow program {} = some workspace) {owner : Class}
    (made : owner ∈ workspace.classes) {context : Context}
    (sameForest : context.scopes = workspace.forest) {inner : Class} (inTree : inner ∈ owner.tree) :
    (∀ element ∈ inner.parts.elements, ∀ type, element.definedType? = some type →
      element.definition context ∈ owner.definitions context ∧
        ∀ script, element.definition context = .ok script →
          script = element.definedAs context
            (if element.isArray then type
            else context.scopes.resolveType inner.memberLink type scopeSeparator)) ∧
      ∃ path, context.scopes.Walk inner.memberLink path ∧
        ∀ (type : String) (split : TypeName), split.IsSplitOf type →
          (∀ below scope node above, path = below ++ (scope, node) :: above → split.word ≠ "" →
            split.word ∈ node.types → (∀ met ∈ below, split.word ∉ met.2.types) →
            context.scopes.path? (some scope) = some (names ((scope, node) :: above)) ∧
              context.scopes.resolveType inner.memberLink type scopeSeparator =
                split.constness ++
                  scopeSeparator.intercalate (names ((scope, node) :: above) ++ [split.word]) ++
                  split.rest) ∧
          ((split.word = "" ∨ ∀ met ∈ path, split.word ∉ met.2.types) →
            context.scopes.resolveType inner.memberLink type scopeSeparator = type) := by
  have sound := Workspace.Sound.empty.follow followed
  have kept := sound.isKept made
  rw [← sameForest] at kept
  constructor
  · intro element listed type carries
    constructor
    · exact Class.definition_mem_definitions inTree listed carries
    · intro script defined
      exact Class.definition_eq_definedAs (kept inner inTree) listed carries defined
  · have walk := sound.acyclic.walk inner.memberLink
    rw [← sameForest] at walk
    refine ⟨_, walk, fun type split isSplit => ⟨?_, ?_⟩⟩
    · intro below scope node above met isWord declared undeclared
      rw [met] at walk
      constructor
      · rw [walk.behind.path?_eq, if_neg (List.cons_ne_nil _ _)]
      · exact walk.resolveType_of_declared isSplit isWord declared undeclared scopeSeparator
    · intro absent
      exact walk.resolveType_of_undeclared isSplit absent scopeSeparator

/-- A class with an enumeration, and with a static variable and a static array of this
type. -/
def Workspace.statesProgram : List Workspace.Action :=
  [.operate (.createClass "Machine"), .operate (.addMember ⟨0⟩ (.enumeration { name := "State" })),
    .operate (.addMember ⟨0⟩ (.data { name := "s_now", type := "State", isStatic := true })),
    .operate (.addMember ⟨0⟩ (.array
      { name := "s_all", type := "State", isStatic := true, size := some 2 }))]

/-- The variable names the class in front of its type. -/
theorem state_is_spelled_with_machine :
    ∃ workspace, Workspace.follow Workspace.statesProgram {} = some workspace ∧
      ∃ owner ∈ workspace.classes, ∃ data ∈ owner.parts.dataMembers,
        data.definition (.ofScopes workspace.forest) =
          .ok [.line "Machine::State Machine::s_now;"] := by
  have followed : Workspace.follow Workspace.statesProgram {} = some _ := rfl
  refine ⟨_, followed, _, List.mem_cons_self, _, List.mem_cons_self, ?_⟩
  have sameForest (forest : Forest) : (Context.ofScopes forest).scopes = forest := rfl
  have spells := (definitions_spell_types followed List.mem_cons_self (sameForest _)
    (Class.mem_tree_self _)).1
  have spelled := (spells (.data _) (List.mem_cons_of_mem _ List.mem_cons_self) "State" rfl).2 _ rfl
  refine congrArg Except.ok (spelled.trans ?_)
  refine congrArg (fun text => [Step.line text]) ?_
  decide +kernel

/-- The array does not. -/
theorem state_of_array_is_not_resolved :
    ¬ ∀ program workspace, Workspace.follow program {} = some workspace →
      ∀ owner ∈ workspace.classes, owner.SpellsResolved (.ofScopes workspace.forest) := by
  intro claim
  have spells := claim Workspace.statesProgram _ rfl _ List.mem_cons_self
  have spelled := spells _ (Class.mem_tree_self _) (.array _)
    (List.mem_cons_of_mem _ (List.mem_cons_of_mem _ List.mem_cons_self)) "State" rfl _ rfl
  have sameLine := Step.line.inj (List.cons.inj spelled).1
  exact absurd sameLine (by decide +kernel)

end CppModel
