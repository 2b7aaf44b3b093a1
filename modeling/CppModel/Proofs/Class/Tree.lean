import CppModel.Proofs.Config.Building
import CppModel.Proofs.Scope.Workspace

/-!
# Trees of classes

The tree of a class lists the class and all classes inside it, at any depth.  What has to
hold of every class of a tree is said about the list, so that only its few laws need an
induction on classes.

Adding a member links it to the scope of its class, and a class owns its scope as long as
it exists.  A class is kept if the members of every class in its tree hold links to a
living scope, which is that of their own class.  Adding to a class keeps its members
linked.
-/

namespace CppModel

open Scope Config

/-- The members hold links to the scope of their class. -/
structure ClassParts.IsLinked (parts : ClassParts) : Prop where
  enumerations : ∀ enumeration ∈ parts.enumerations, enumeration.link = some parts.scope
  functions : ∀ function ∈ parts.functions, function.link = some parts.scope
  dataMembers : ∀ data ∈ parts.dataMembers, data.link = some parts.scope
  arrays : ∀ array ∈ parts.arrays, array.link = some parts.scope

/-- The members hold links to the scope of their class, and it is alive. -/
def ClassParts.IsKept (forest : Forest) (parts : ClassParts) : Prop :=
  parts.IsLinked ∧ forest.isAttached (some parts.scope) = true

namespace Class

mutual

/-- The class and all classes inside it. -/
def tree : Class → List Class
  | ⟨parts, nested⟩ => ⟨parts, nested⟩ :: treeOfAll nested

/-- The classes of a list and all classes inside them. -/
def treeOfAll : List Class → List Class
  | [] => []
  | inner :: rest => tree inner ++ treeOfAll rest

end

theorem treeOfAll_eq_flatMap (classes : List Class) : treeOfAll classes = classes.flatMap tree := by
  induction classes with
  | nil => rfl
  | cons first rest inductionHypothesis =>
      rw [treeOfAll, inductionHypothesis, List.flatMap_cons]

theorem tree_eq (owner : Class) : owner.tree = owner :: owner.nested.flatMap tree := by
  cases owner with
  | mk parts nested => rw [tree, treeOfAll_eq_flatMap]

theorem mem_tree_self (owner : Class) : owner ∈ owner.tree := by
  rw [tree_eq]
  exact List.mem_cons_self

theorem forall_mem_tree_iff (owner : Class) (holds : Class → Prop) :
    (∀ inner ∈ owner.tree, holds inner) ↔
      holds owner ∧ ∀ inner ∈ owner.nested, ∀ deeper ∈ inner.tree, holds deeper := by
  rw [tree_eq, List.forall_mem_cons, List.forall_mem_flatMap]

/-- What holds of a class as soon as it holds of the classes that are nested in it holds
of every class. -/
@[elab_as_elim]
theorem induction_on {motive : Class → Prop} (owner : Class)
    (step : ∀ parts nested, (∀ inner ∈ nested, motive inner) → motive ⟨parts, nested⟩) :
    motive owner := by
  refine @Class.rec motive (fun nested => ∀ inner ∈ nested, motive inner) step ?_ ?_ owner
  · exact List.forall_mem_nil _
  · intro first rest holdsFirst holdsRest
    exact List.forall_mem_cons.mpr ⟨holdsFirst, holdsRest⟩

/-- A relation holds between classes that are related down their trees, if it holds as soon
as it holds between their nested classes, in order. -/
@[elab_as_elim]
theorem induction_on_related {related motive : Class → Class → Prop} {first second : Class}
    (isRelated : related first second)
    (inside : ∀ {first second}, related first second →
      List.Forall₂ related first.nested second.nested)
    (step : ∀ first second, related first second →
      List.Forall₂ motive first.nested second.nested → motive first second) :
    motive first second := by
  induction first using induction_on generalizing second with
  | step parts nested inductionHypothesis =>
      apply step _ _ isRelated
      have nestedRelated := inside isRelated
      rw [List.forall₂_iff_zip] at nestedRelated ⊢
      refine ⟨nestedRelated.1, fun paired => ?_⟩
      exact inductionHypothesis _ (List.of_mem_zip paired).1 (nestedRelated.2 paired)

/-- The classes inside a class of the tree are in the tree. -/
theorem mem_tree_of_mem_tree {inner holder owner : Class} (inside : inner ∈ holder.tree)
    (inTree : holder ∈ owner.tree) : inner ∈ owner.tree := by
  induction owner using induction_on with
  | step parts nested inductionHypothesis =>
      rw [tree_eq, List.mem_cons] at inTree
      rcases inTree with rfl | deeper
      · exact inside
      · rcases List.mem_flatMap.mp deeper with ⟨branch, listed, inBranch⟩
        rw [tree_eq]
        apply List.mem_cons_of_mem
        exact List.mem_flatMap.mpr ⟨branch, listed, inductionHypothesis branch listed inBranch⟩

/-- A class owns the scopes of the classes in its tree. -/
theorem scopes_eq_map_tree (owner : Class) :
    owner.scopes = owner.tree.map fun inner => inner.parts.scope := by
  induction owner using induction_on with
  | step parts nested inductionHypothesis =>
      rw [scopes, tree_eq, Workspace.scopesOfAll_eq_flatMap, List.map_cons, List.map_flatMap,
        List.flatMap_congr inductionHypothesis]

theorem scope_mem_scopes (owner : Class) : owner.parts.scope ∈ owner.scopes := by
  rw [scopes_eq_map_tree]
  exact List.mem_map_of_mem owner.mem_tree_self

/-! ## Kept classes -/

/-- In every class of the tree, the members hold links to the scope of their class. -/
def HasLinkedMembers (owner : Class) : Prop :=
  ∀ inner ∈ owner.tree, inner.parts.IsLinked

/-- In every class of the tree, the members hold links to the scope of their class, which
is alive. -/
def IsKept (forest : Forest) (owner : Class) : Prop :=
  ∀ inner ∈ owner.tree, inner.parts.IsKept forest

theorem isKept_iff (forest : Forest) (owner : Class) :
    owner.IsKept forest ↔ owner.HasLinkedMembers ∧ owner.IsAlive forest := by
  unfold IsKept ClassParts.IsKept HasLinkedMembers IsAlive
  rw [scopes_eq_map_tree, List.forall_mem_map]
  exact forall₂_and

theorem hasLinkedMembers_iff (owner : Class) :
    owner.HasLinkedMembers ↔
      owner.parts.IsLinked ∧ ∀ inner ∈ owner.nested, inner.HasLinkedMembers :=
  forall_mem_tree_iff owner _

/-! ## Adding keeps members linked -/

variable {owner inner : Class}

theorem hasLinkedMembers_create (name : String) (forest : Forest) :
    ((create name).run forest).1.HasLinkedMembers := by
  rw [hasLinkedMembers_iff]
  constructor
  · constructor <;> exact List.forall_mem_nil _
  · exact List.forall_mem_nil _

/-- A member that is added holds a link to the class that it is added to, whatever link it
held before. -/
theorem isLinked_addMember (linked : owner.parts.IsLinked) (member : Member) (forest : Forest) :
    ((owner.addMember member).run forest).1.parts.IsLinked := by
  rcases linked with ⟨enumerations, functions, dataMembers, arrays⟩
  cases member with
  | function content =>
      have added := List.forall_mem_append.mpr ⟨functions,
        List.forall_mem_singleton.mpr (MemberFunction.link_withLink owner.memberLink content)⟩
      exact ⟨enumerations, added, dataMembers, arrays⟩
  | data content =>
      have added := List.forall_mem_append.mpr ⟨dataMembers,
        List.forall_mem_singleton (a := { content with link := owner.memberLink }).mpr rfl⟩
      exact ⟨enumerations, functions, added, arrays⟩
  | array content =>
      have added := List.forall_mem_append.mpr ⟨arrays,
        List.forall_mem_singleton (a := { content with link := owner.memberLink }).mpr rfl⟩
      exact ⟨enumerations, functions, dataMembers, added⟩
  | enumeration content =>
      have added := List.forall_mem_append.mpr ⟨enumerations,
        List.forall_mem_singleton (a := { content with link := owner.memberLink }).mpr rfl⟩
      exact ⟨added, functions, dataMembers, arrays⟩

theorem nested_addMember (owner : Class) (member : Member) (forest : Forest) :
    ((owner.addMember member).run forest).1.nested = owner.nested := by
  cases member <;> rfl

theorem hasLinkedMembers_addMember (linked : owner.HasLinkedMembers) (member : Member)
    (forest : Forest) : ((owner.addMember member).run forest).1.HasLinkedMembers := by
  rw [hasLinkedMembers_iff] at linked ⊢
  rw [nested_addMember]
  exact ⟨isLinked_addMember linked.1 member forest, linked.2⟩

theorem hasLinkedMembers_addClass (linked : owner.HasLinkedMembers)
    (innerLinked : inner.HasLinkedMembers) (forest : Forest) :
    ((owner.addClass inner).run forest).1.HasLinkedMembers := by
  rw [hasLinkedMembers_iff] at linked ⊢
  constructor
  · exact linked.1
  · exact List.forall_mem_append.mpr ⟨linked.2, List.forall_mem_singleton.mpr innerLinked⟩

end Class

/-! ## Units -/

/-- The element is a function, or a class for which the condition holds. -/
def Element.IsFunctionOrClass (condition : Class → Prop) : Element → Prop
  | .function _ => True
  | .classType owner => condition owner
  | _ => False

theorem Element.IsFunctionOrClass.imp {condition other : Class → Prop} {element : Element}
    (holds : element.IsFunctionOrClass condition)
    (implies : ∀ owner, element = .classType owner → condition owner → other owner) :
    element.IsFunctionOrClass other := by
  cases element with
  | function => trivial
  | classType owner => exact implies owner rfl holds
  | _ => cases holds

namespace TranslationUnit

/-- The unit consists of functions and kept classes. -/
def IsKept (forest : Forest) (unit : TranslationUnit) : Prop :=
  ∀ element ∈ unit.items, element.IsFunctionOrClass (·.IsKept forest)

end TranslationUnit

end CppModel
