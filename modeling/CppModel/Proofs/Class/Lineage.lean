import CppModel.Proofs.Class.Settled
import CppModel.Proofs.Scope.Resolution

/-!
# Types and the names of elements

A lineage leads from a class of a tree out to the root.  While the root stands alone, the
walk from the members of a class meets the scopes of its lineage and nothing else, and
each of them declares the types that its class contains.

So there are two ways to the same name.  A type text is resolved through the lists of
declared types, and an element is named through the links.  The first type of that name on
the lineage is where they meet; types of the same name further out are hidden.
-/

namespace CppModel

open Scope
open Scope.Forest (names)

theorem Scope.Forest.Walk.behind {forest : Forest} {link : Link} {below above : List (Id × Node)}
    {scope : Id} {node : Node} (walk : forest.Walk link (below ++ (scope, node) :: above)) :
    forest.Walk (some scope) ((scope, node) :: above) := by
  induction below generalizing link with
  | nil =>
      cases walk with
      | step alive rest =>
          rcases Forest.target?_eq_some_iff.mp alive with ⟨rfl, _⟩
          exact .step alive rest
  | cons first others inductionHypothesis =>
      cases walk with
      | step alive rest => exact inductionHypothesis rest

namespace Class

/-- From a class of the tree outwards: each class is nested in the next one, and the last
one is the root. -/
inductive Lineage (owner : Class) : List Class → Prop
  | root : Lineage owner [owner]
  | inside {inner outer : Class} {further : List Class} (lineage : Lineage owner (outer :: further))
      (nested : inner ∈ outer.nested) : Lineage owner (inner :: outer :: further)

variable {owner inner holder : Class} {outer before after : List Class} {forest : Forest}

theorem mem_tree_of_mem_nested (inTree : holder ∈ owner.tree) (nested : inner ∈ holder.nested) :
    inner ∈ owner.tree := by
  apply mem_tree_of_mem_tree _ inTree
  rw [tree_eq]
  exact List.mem_cons_of_mem _ (List.mem_flatMap.mpr ⟨inner, nested, inner.mem_tree_self⟩)

namespace Lineage

theorem mem_tree (lineage : owner.Lineage (inner :: outer)) : inner ∈ owner.tree := by
  generalize path : inner :: outer = whole at lineage
  induction lineage generalizing inner outer with
  | root =>
      cases path
      exact owner.mem_tree_self
  | inside lineage nested inductionHypothesis =>
      cases path
      exact mem_tree_of_mem_nested (inductionHypothesis rfl) nested

/-- The part of a lineage from one of its classes outwards is the lineage of that class. -/
theorem behind (lineage : owner.Lineage (before ++ holder :: after)) :
    owner.Lineage (holder :: after) := by
  induction before with
  | nil => exact lineage
  | cons first others inductionHypothesis =>
      apply inductionHypothesis
      cases others with
      | nil =>
          cases lineage with
          | inside lineage _ => exact lineage
      | cons second others =>
          cases lineage with
          | inside lineage _ => exact lineage

/-- Inside a further class, a lineage ends one class later. -/
theorem append_root {root : Class} {path : List Class} (lineage : owner.Lineage path)
    (nested : owner ∈ root.nested) : root.Lineage (path ++ [root]) := by
  induction lineage with
  | root => exact .inside .root nested
  | inside _ isInside inductionHypothesis => exact .inside inductionHypothesis isInside

end Lineage

/-- Every class of a tree has a lineage. -/
theorem exists_lineage (inTree : inner ∈ owner.tree) : ∃ outer, owner.Lineage (inner :: outer) := by
  induction owner using induction_on with
  | step parts classes inductionHypothesis =>
      rw [tree_eq, List.mem_cons] at inTree
      rcases inTree with rfl | deeper
      · exact ⟨[], .root⟩
      · rcases List.mem_flatMap.mp deeper with ⟨branch, listed, inBranch⟩
        rcases inductionHypothesis branch listed inBranch with ⟨outer, lineage⟩
        have further := lineage.append_root listed
        rw [List.cons_append] at further
        exact ⟨_, further⟩

/-! ## The walk along a lineage -/

/-- The scope that is met is that of the class: it has its name and declares its types. -/
structure IsMetAs (inner : Class) (met : Id × Node) : Prop where
  scope : met.1 = inner.parts.scope
  name : met.2.name = inner.parts.name
  types : ∀ type, type ∈ met.2.types ↔ type ∈ inner.types.map (·.name)

theorem IsRecorded.exists_node (recorded : inner.IsRecorded forest) :
    ∃ node, forest.target? inner.memberLink = some (inner.parts.scope, node) ∧
      node.parent = forest.parent inner.parts.scope ∧ inner.IsMetAs (inner.parts.scope, node) := by
  rcases recorded.declares with ⟨types, known, same⟩
  rcases Option.map_eq_some_iff.mp known with ⟨node, isNode, parts⟩
  rcases Prod.mk.inj parts with ⟨sameName, rfl⟩
  refine ⟨node, Forest.target?_eq_some_iff.mpr ⟨rfl, isNode⟩, ?_, ⟨rfl, sameName, same⟩⟩
  rw [Forest.parent, isNode]
  rfl

/-- The walk from the members of a class meets the scopes of its lineage. -/
theorem StandsAlone.exists_walk (stands : owner.StandsAlone forest)
    (lineage : owner.Lineage (inner :: outer)) :
    ∃ path, forest.Walk inner.memberLink path ∧ List.Forall₂ IsMetAs (inner :: outer) path := by
  rcases (stands.settled inner lineage.mem_tree).exists_node with ⟨node, alive, sameParent, isMet⟩
  generalize whole : inner :: outer = path at lineage
  induction lineage generalizing inner outer node with
  | root =>
      cases whole
      refine ⟨[_], .step alive (.stop ?_), .cons isMet .nil⟩
      rw [sameParent, stands.outermost]
      rfl
  | inside lineage nested inductionHypothesis =>
      cases whole
      have recorded := stands.settled _ lineage.mem_tree
      rcases recorded.exists_node with ⟨outerNode, outerAlive, outerParent, outerMet⟩
      rcases inductionHypothesis outerNode outerAlive outerParent outerMet rfl with
        ⟨path, walk, met⟩
      refine ⟨_ :: path, .step alive ?_, .cons isMet met⟩
      rw [sameParent, recorded.inside _ nested]
      exact walk

theorem forall₂_split {path : List (Id × Node)}
    (met : List.Forall₂ IsMetAs (before ++ holder :: after) path) :
    ∃ below scope node above, path = below ++ (scope, node) :: above ∧
      List.Forall₂ IsMetAs before below ∧ holder.IsMetAs (scope, node) := by
  induction before generalizing path with
  | nil =>
      cases met with
      | @cons _ meeting _ above isMet _ => exact ⟨[], _, _, above, rfl, .nil, isMet⟩
  | cons first others inductionHypothesis =>
      cases met with
      | cons isMet rest =>
          rcases inductionHypothesis rest with ⟨below, scope, node, above, rfl, passed, holderMet⟩
          exact ⟨_ :: below, scope, node, above, rfl, .cons isMet passed, holderMet⟩

/-- If no class declares a word, no scope that is met does. -/
theorem forall_not_mem_of_forall₂ {classes : List Class} {path : List (Id × Node)} {word : String}
    (met : List.Forall₂ IsMetAs classes path)
    (absent : ∀ inner ∈ classes, word ∉ inner.types.map (·.name)) :
    ∀ meeting ∈ path, word ∉ meeting.2.types := by
  induction met with
  | nil => exact List.forall_mem_nil _
  | cons isMet _ inductionHypothesis =>
      rcases List.forall_mem_cons.mp absent with ⟨firstAbsent, othersAbsent⟩
      rw [List.forall_mem_cons]
      exact ⟨fun listed => firstAbsent ((isMet.types word).mp listed),
        inductionHypothesis othersAbsent⟩

/-- The types of a class are linked to it. -/
theorem link_of_mem_types (recorded : owner.IsRecorded forest) (linked : owner.parts.IsLinked)
    {member : Element} (listed : member ∈ owner.types) : member.link forest = owner.memberLink := by
  rcases List.mem_append.mp listed with inEnumerations | inClasses
  · rcases List.mem_map.mp inEnumerations with ⟨enumeration, isMember, rfl⟩
    exact linked.enumerations enumeration isMember
  · rcases List.mem_map.mp inClasses with ⟨inner, isMember, rfl⟩
    exact recorded.inside inner isMember

/-! ## Resolution -/

/-- From every class of the tree, a type text resolves to its constness, the full name of a
type of that name in the innermost class of the lineage that has one, and its rest.  If
there is no such type, or no name in the text, it stays as it is. -/
structure ResolvesAsNamed (context : Context) (owner : Class) : Prop where
  /-- No class of the tree is left out. -/
  lineages : ∀ inner ∈ owner.tree, ∃ outer, owner.Lineage (inner :: outer)
  named : ∀ inner outer, owner.Lineage (inner :: outer) →
    ∀ (type : String) (split : TypeName), split.IsSplitOf type →
      ∀ before holder after, inner :: outer = before ++ holder :: after → split.word ≠ "" →
        (∀ passed ∈ before, split.word ∉ passed.types.map (·.name)) →
        ∀ member ∈ holder.types, member.name = split.word →
          context.scopes.resolveType inner.memberLink type scopeSeparator =
            split.constness ++ member.fullName context ++ split.rest
  unchanged : ∀ inner outer, owner.Lineage (inner :: outer) →
    ∀ (type : String) (split : TypeName), split.IsSplitOf type →
      (split.word = "" ∨ ∀ holder ∈ inner :: outer, split.word ∉ holder.types.map (·.name)) →
        context.scopes.resolveType inner.memberLink type scopeSeparator = type

theorem resolvesAsNamed_of_standsAlone {context : Context}
    (stands : owner.StandsAlone context.scopes) (linked : owner.HasLinkedMembers) :
    owner.ResolvesAsNamed context := by
  constructor
  case lineages => exact fun inner => exists_lineage
  case named =>
    intro inner outer lineage type split isSplit before holder after whole isWord hidden member
      listed sameName
    rcases stands.exists_walk lineage with ⟨path, walk, met⟩
    rw [whole] at lineage met
    have holderInTree := lineage.behind.mem_tree
    rcases forall₂_split met with ⟨below, scope, node, above, rfl, passed, holderMet⟩
    have declared : split.word ∈ node.types := by
      rw [holderMet.types, ← sameName]
      exact List.mem_map_of_mem listed
    have undeclared := forall_not_mem_of_forall₂ passed hidden
    have link := link_of_mem_types (stands.settled holder holderInTree)
      (linked holder holderInTree) listed
    rw [memberLink, ← holderMet.scope] at link
    rw [walk.resolveType_of_declared isSplit isWord declared undeclared, Element.fullName,
      Element.qualifiedName, link, walk.behind.qualifiedName_eq, sameName]
    rfl
  case unchanged =>
    intro inner outer lineage type split isSplit undeclared
    rcases stands.exists_walk lineage with ⟨path, walk, met⟩
    rcases undeclared with empty | absent
    · exact walk.resolveType_of_undeclared isSplit (.inl empty) _
    · exact walk.resolveType_of_undeclared isSplit (.inr (forall_not_mem_of_forall₂ met absent)) _

end Class

/-- The resolution of type texts agrees with the names of elements.  This holds for every
class that a program has filled by adding to it and to the classes in it, without nesting
their scopes or declaring types in them by hand, and for every class of a model. -/
theorem types_resolve_as_named :
    (∀ program workspace, Workspace.follow program {} = some workspace →
      ∀ owner ∈ workspace.classes,
        (∀ scope ∈ owner.scopes, scope ∉ program.flatMap Workspace.Action.touched) →
          ∀ produced, owner.ResolvesAsNamed ⟨workspace.forest, produced⟩) ∧
      ∀ (model : Model) (owner : Class), .classType owner ∈ model.build.1.items →
        owner.ResolvesAsNamed model.build.2 := by
  have afterProgram {program : List Workspace.Action} {workspace : Workspace}
      (followed : Workspace.follow program {} = some workspace) {owner : Class}
      (listed : owner ∈ workspace.classes)
      (untouched : ∀ scope ∈ owner.scopes, scope ∉ program.flatMap Workspace.Action.touched)
      {context : Context} (sameForest : context.scopes = workspace.forest) :
      owner.ResolvesAsNamed context := by
    have sound := Workspace.Sound.empty.follow followed
    apply Class.resolvesAsNamed_of_standsAlone
    · rw [sameForest]
      exact Workspace.untouchedStandAlone_follow followed owner listed untouched
    · exact sound.linked owner listed
  constructor
  · intro program workspace followed owner listed untouched produced
    exact afterProgram followed listed untouched rfl
  · intro model owner listed
    rcases model.exists_workspace with ⟨workspace, ⟨program, untouched, followed⟩, same, complete⟩
    rw [complete, TranslationUnit.ofFunctionsAndClasses] at listed
    have isMade : owner ∈ workspace.classes := by simpa using listed
    apply afterProgram followed isMade _ same.symm
    rw [untouched]
    exact fun _ _ => List.not_mem_nil

/-- An outer and an inner class that both have an enumeration of the same name. -/
def Workspace.shadowingProgram : List Workspace.Action :=
  [.operate (.createClass "Outer"), .operate (.createClass "Inner"),
    .operate (.addMember ⟨0⟩ (.enumeration { name := "Kind" })),
    .operate (.addMember ⟨1⟩ (.enumeration { name := "Kind" })),
    .operate (.addClass ⟨0⟩ ⟨1⟩)]

/-- Seen from the inner class, the enumeration of the inner class is meant. -/
theorem kind_resolves_to_inner :
    ∃ workspace, Workspace.follow Workspace.shadowingProgram {} = some workspace ∧
      workspace.forest.resolveType (some ⟨1⟩) "const Kind&" "::" = "const Outer::Inner::Kind&" := by
  have followed : Workspace.follow Workspace.shadowingProgram {} = some _ := rfl
  refine ⟨_, followed, ?_⟩
  have resolves := types_resolve_as_named.1 _ _ followed _ List.mem_cons_self (by decide)
    fun _ => []
  have fromInner := resolves.named _ _ (.inside .root List.mem_cons_self)
  have split : TypeName.IsSplitOf ⟨"const ", "Kind", "&"⟩ "const Kind&" := by
    have isSplit := TypeName.isSplitOf_ofString "const Kind&"
    have parts : TypeName.ofString "const Kind&" = ⟨"const ", "Kind", "&"⟩ := by decide +kernel
    rwa [parts] at isSplit
  have named := fromInner "const Kind&" _ split [] _ _ rfl (by decide)
    (List.forall_mem_nil _) _ List.mem_cons_self rfl
  refine named.trans ?_
  decide +kernel

end CppModel
