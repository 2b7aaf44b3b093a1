import CppModel.Proofs.Class.Settled
import CppModel.Proofs.Pieces.Classes
import CppModel.Proofs.Scope.Names

/-!
# What adding does

A member that is added to a class is behind the others of its kind, and whatever link it
had, it is now linked to the scope of the class.

A class that is added to another one is behind its nested classes, but its scope keeps the
link that it had if it is met on the walk from the other class.  This is the case of a
class that the other one, or a scope around it, has been nested in by hand.  The class is
then among the nested classes of a class that it contains, and is not named after it.
-/

namespace CppModel

open Scope
open Scope.Forest (names)

namespace Scope.Forest

variable {forest : Forest} {link : Link} {scope : Id}

/-- Declaring a type leaves every walk at the scopes that it meets. -/
theorem Walk.declareType {path : List (Id × Node)} (walk : forest.Walk link path) (scope : Id)
    (type : String) :
    ∃ after, (forest.declareType scope type).Walk link after ∧
      after.map Prod.fst = path.map Prod.fst := by
  induction walk with
  | @stop link dead =>
      refine ⟨[], .stop ?_, rfl⟩
      cases link with
      | none => rfl
      | some asked =>
          rw [target?_some_eq_none_iff] at dead ⊢
          rw [Forest.declareType, node?_update, dead]
          simp
  | @step link met node outer alive rest inductionHypothesis =>
      rcases inductionHypothesis with ⟨after, further, same⟩
      rcases target?_eq_some_iff.mp alive with ⟨rfl, isNode⟩
      by_cases isScope : met = scope
      · refine ⟨(met, { node with types := node.types ++ [type] }) :: after, .step ?_ further, ?_⟩
        · rw [target?_eq_some_iff, Forest.declareType, node?_update, if_pos isScope, isNode]
          exact ⟨rfl, rfl⟩
        · rw [List.map_cons, List.map_cons, same]
      · refine ⟨(met, node) :: after, .step ?_ further, ?_⟩
        · rw [target?_eq_some_iff, node?_declareType_of_ne type isScope]
          exact ⟨rfl, isNode⟩
        · rw [List.map_cons, List.map_cons, same]

/-- Whether a scope is met on a walk does not depend on declared types. -/
theorem Acyclic.isAbove_declareType (acyclic : forest.Acyclic) (asked changed : Id) (link : Link)
    (type : String) :
    (forest.declareType changed type).isAbove asked link = forest.isAbove asked link := by
  rcases (acyclic.walk link).declareType changed type with ⟨after, walk, same⟩
  rw [Bool.eq_iff_iff, isAbove_iff, isAbove_iff, walk.ancestors_eq, same]

end Scope.Forest

/-- The element holds a link to a living scope, and is named by the path of the scope and
its own name. -/
structure Element.LiesIn (forest : Forest) (scope : Id) (element : Element) : Prop where
  link : element.link forest = some scope
  name : ∃ path, forest.path? (some scope) = some path ∧ ∀ separator,
    element.qualifiedName forest separator = separator.intercalate (path ++ [element.name])

theorem Element.liesIn_of_link {forest : Forest} {scope : Id} {element : Element}
    (link : element.link forest = some scope) (alive : forest.isAttached (some scope) = true) :
    element.LiesIn forest scope where
  link := link
  name := by
    have known : forest.path? (some scope) =
        some ((forest.ancestors (some scope)).map (·.2.name)).reverse := by
      rw [Forest.path?, if_pos alive]
    refine ⟨_, known, fun separator => ?_⟩
    rw [qualifiedName, link, Forest.qualifiedName, Forest.qualify?, known]
    rfl

namespace Member

/-- The member as an element under a link. -/
def toElement (link : Link) : Member → Element
  | .function content => .member (content.withLink link)
  | .data content => .data { content with link := link }
  | .array content => .array { content with link := link }
  | .enumeration content => .enumeration { content with link := link }

/-- The members of a class that are of the same kind. -/
def collection (owner : Class) : Member → List Element
  | .function _ => owner.parts.functions.map .member
  | .data _ => owner.parts.dataMembers.map .data
  | .array _ => owner.parts.arrays.map .array
  | .enumeration _ => owner.parts.enumerations.map .enumeration

theorem link_toElement (forest : Forest) (link : Link) (member : Member) :
    (member.toElement link).link forest = link := by
  cases member with
  | function content => exact content.link_withLink link
  | _ => rfl

/-- A member that is added stands behind the members of its kind. -/
theorem collection_addMember (owner : Class) (member : Member) (forest : Forest) :
    member.collection ((owner.addMember member).run forest).1 =
      member.collection owner ++ [member.toElement owner.memberLink] := by
  cases member <;> exact List.map_append

end Member

namespace Class

variable {inner : Class} {forest : Forest}

theorem scope_addMember (owner : Class) (member : Member) (forest : Forest) :
    ((owner.addMember member).run forest).1.parts.scope = owner.parts.scope := by
  cases member <;> rfl

/-- The link of a class that is added is that to the other class, unless it is refused. -/
theorem parent_addClass_inner (owner : Class) (acyclic : forest.Acyclic)
    (alive : forest.isAttached (some inner.parts.scope) = true) :
    ((owner.addClass inner).run forest).2.parent inner.parts.scope =
      if forest.isAbove inner.parts.scope owner.memberLink then forest.parent inner.parts.scope
      else owner.memberLink := by
  have sameAbove := acyclic.isAbove_declareType inner.parts.scope owner.parts.scope owner.memberLink
    inner.parts.name
  cases above : forest.isAbove inner.parts.scope owner.memberLink with
  | true =>
      rw [above] at sameAbove
      have refused := congrArg Prod.snd (Forest.attach_of_isAbove sameAbove)
      exact (congrArg (Forest.parent · inner.parts.scope) refused).trans
        (Forest.parent_declareType _ _ _ _)
  | false =>
      rw [above] at sameAbove
      exact Forest.parent_attach sameAbove ((Forest.isAttached_update _ _ _ _).trans alive)

end Class

/-- In a workspace after any program, a member that is added to a class is the last one of
its kind, holds a link to the class, and is named by the path of the class and its own
name.

A class that is added is the last one of the nested classes.  If its scope is not met on
the walk from the other class, it lies in this class and is named after it; otherwise it
keeps the link that it had. -/
theorem added_members_are_linked {program : List Workspace.Action} {workspace : Workspace}
    (followed : Workspace.follow program {} = some workspace) (scope : Id) (next : Workspace) :
    (∀ member, workspace.perform (.addMember scope member) = some next →
      ∃ owner ∈ workspace.classes, owner.parts.scope = scope ∧
        ∃ filled ∈ next.classes, filled.parts.scope = scope ∧
          member.collection filled =
            member.collection owner ++ [member.toElement (some scope)] ∧
          (member.toElement (some scope)).LiesIn next.forest scope) ∧
      ∀ innerScope, workspace.perform (.addClass scope innerScope) = some next →
        ∃ owner ∈ workspace.classes, owner.parts.scope = scope ∧
          ∃ inner ∈ workspace.classes, inner.parts.scope = innerScope ∧
            ∃ filled ∈ next.classes, filled.parts = owner.parts ∧
              filled.nested = owner.nested ++ [inner] ∧
              ∃ path, workspace.forest.Walk (some scope) path ∧
                (innerScope ∉ path.map Prod.fst →
                  (Element.classType inner).LiesIn next.forest scope) ∧
                (innerScope ∈ path.map Prod.fst →
                  next.forest.parent innerScope = workspace.forest.parent innerScope) := by
  have sound := Workspace.Sound.empty.follow followed
  have alive {asked : Workspace} (asSound : asked.Sound) {owner : Class}
      (listed : owner ∈ asked.classes) : asked.forest.isAttached (some owner.parts.scope) = true :=
    (asSound.isKept listed owner owner.mem_tree_self).2
  constructor
  · intro member performed
    have nextSound := sound.perform performed
    rcases Workspace.perform_addMember performed with ⟨owner, others, permuted, rfl, rfl⟩
    refine ⟨owner, permuted.mem_iff.mpr List.mem_cons_self, rfl, _, List.mem_cons_self,
      Class.scope_addMember owner member _, Member.collection_addMember owner member _, ?_⟩
    apply Element.liesIn_of_link (Member.link_toElement _ _ member)
    have filledAlive := alive nextSound List.mem_cons_self
    rwa [Class.scope_addMember] at filledAlive
  · intro innerScope performed
    have nextSound := sound.perform performed
    rcases Workspace.perform_addClass performed with ⟨owner, inner, others, permuted, rfl, rfl, rfl⟩
    have innerMade : inner ∈ workspace.classes :=
      permuted.mem_iff.mpr (List.mem_cons_of_mem _ List.mem_cons_self)
    have link := Class.parent_addClass_inner owner sound.acyclic (alive sound innerMade)
    refine ⟨owner, permuted.mem_iff.mpr List.mem_cons_self, rfl, inner, innerMade, rfl, _,
      List.mem_cons_self, rfl, rfl, _, sound.acyclic.walk _, ?_, ?_⟩
    · intro unmet
      rw [← Forest.isAbove_iff] at unmet
      have filledAlive := alive nextSound List.mem_cons_self
      exact Element.liesIn_of_link (link.trans (if_neg unmet)) filledAlive
    · intro met
      rw [← Forest.isAbove_iff] at met
      exact link.trans (if_pos met)

/-- Two classes of which neither lies in the other one. -/
def Workspace.twoClasses : List Workspace.Action :=
  [.operate (.createClass "A"), .operate (.createClass "B")]

/-- The inner class is named after the outer one. -/
theorem inner_lies_in_outer :
    ∃ workspace next, Workspace.follow Workspace.twoClasses {} = some workspace ∧
      workspace.perform (.addClass ⟨0⟩ ⟨1⟩) = some next ∧
      ∃ inner ∈ workspace.classes, inner.parts.name = "B" ∧
        (Element.classType inner).LiesIn next.forest ⟨0⟩ := by
  have followed : Workspace.follow Workspace.twoClasses {} = some _ := rfl
  refine ⟨_, _, followed, rfl, ?_⟩
  rcases (added_members_are_linked followed ⟨0⟩ _).2 ⟨1⟩ rfl with
    ⟨owner, _, _, inner, made, isInner, filled, _, _, _, path, walk, accepted, _⟩
  cases walk.unique (.step rfl (.stop rfl))
  refine ⟨inner, made, ?_, accepted (by decide)⟩
  rcases List.mem_cons.mp made with rfl | other
  · rfl
  · rw [List.mem_singleton.mp other] at isInner
    exact absurd isInner (by decide)

/-- A class that has been nested by hand is added to by the class around it, which then is
not linked to it. -/
theorem outer_is_not_linked_to_inner :
    ¬ ∀ program workspace, Workspace.follow program {} = some workspace →
      ∀ scope innerScope next, workspace.perform (.addClass scope innerScope) = some next →
        next.forest.parent innerScope = some scope := by
  intro claim
  have linked := claim (Workspace.twoClasses ++ [.operate (.attach ⟨1⟩ (some ⟨0⟩))]) _ rfl
    ⟨1⟩ ⟨0⟩ _ rfl
  exact absurd linked (by decide)

end CppModel
