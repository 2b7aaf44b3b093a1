import CppModel.Proofs.Calls.Interleaving
import CppModel.Proofs.Class.Likeness
import CppModel.Proofs.Scope.Reordering

/-!
# Adding to classes

What is added to a class is of one of five kinds, and the class keeps the order within each
kind.  Methods and constructors are of one kind.  A type that is added is also declared in
the scope of the class, and a class that is added is nested in this scope.

Additions of different kinds commute, except that the scope may then have declared its
types in another order, which nothing reads.  So the order in which calls of different
kinds are made cannot be told from the class that they lead to.
-/

namespace CppModel

open Scope

/-- What one call adds to a class. -/
inductive Addition (Inner : Type)
  | member (content : Member)
  | nested (inner : Inner)

/-- The kinds of members that a class keeps in order. -/
inductive Addition.Kind
  | enumeration
  | nested
  | function
  | data
  | array
  deriving DecidableEq, Repr

/-- The kind of an addition. -/
def Addition.kind {Inner : Type} : Addition Inner → Addition.Kind
  | .member (.function _) => .function
  | .member (.data _) => .data
  | .member (.array _) => .array
  | .member (.enumeration _) => .enumeration
  | .nested _ => .nested

namespace Class

/-- The class after one call. -/
def add (owner : Class) : Addition Class → StateM Forest Class
  | .member content => owner.addMember content
  | .nested inner => owner.addClass inner

/-- The class after calls that are made one after another. -/
def addAll (owner : Class) : List (Addition Class) → StateM Forest Class
  | [] => pure owner
  | addition :: rest => do
      let owner ← owner.add addition
      owner.addAll rest

/-- The class with an addition behind the others of its kind. -/
def withAddition (owner : Class) : Addition Class → Class
  | .member (.function content) => owner.addFunction content
  | .member (.data content) => owner.addVariable content
  | .member (.array content) => owner.addArray content
  | .member (.enumeration content) =>
      { owner with parts := { owner.parts with
          enumerations := owner.parts.enumerations ++
            [{ content with link := owner.memberLink }] } }
  | .nested inner => { owner with nested := owner.nested ++ [inner] }

end Class

/-- What an addition to the class with the given scope does to the forest. -/
def Addition.declare (scope : Id) (forest : Forest) : Addition Class → Forest
  | .member (.enumeration content) => forest.declareType scope content.name
  | .nested inner =>
      ((forest.declareType scope inner.parts.name).attach inner.parts.scope (some scope)).2
  | _ => forest

namespace Class

theorem run_add (owner : Class) (addition : Addition Class) (forest : Forest) :
    (owner.add addition).run forest =
      (owner.withAddition addition, addition.declare owner.parts.scope forest) := by
  rcases addition with (_ | _ | _ | _) | _ <;> rfl

theorem scope_withAddition (owner : Class) (addition : Addition Class) :
    (owner.withAddition addition).parts.scope = owner.parts.scope := by
  rcases addition with (_ | _ | _ | _) | _ <;> rfl

/-- One call, as a step from a class in a forest to another one. -/
def addStep (state : Class × Forest) (addition : Addition Class) : Class × Forest :=
  (state.1.add addition).run state.2

theorem run_addAll (owner : Class) (additions : List (Addition Class)) (forest : Forest) :
    (owner.addAll additions).run forest = additions.foldl addStep (owner, forest) := by
  induction additions generalizing owner forest with
  | nil => rfl
  | cons addition rest inductionHypothesis => exact inductionHypothesis _ _

theorem withAddition_comm (owner : Class) (first second : Addition Class)
    (apart : first.kind ≠ second.kind) :
    (owner.withAddition first).withAddition second =
      (owner.withAddition second).withAddition first := by
  rcases first with (_ | _ | _ | _) | _ <;> rcases second with (_ | _ | _ | _) | _ <;>
    first
      | rfl
      | exact absurd rfl apart

end Class

namespace Addition

theorem declare_respects (scope : Id) (addition : Addition Class) {forest other : Forest}
    (reorders : forest.Reorders other) :
    (addition.declare scope forest).Reorders (addition.declare scope other) := by
  rcases addition with (_ | _ | _ | content) | inner
  · exact reorders
  · exact reorders
  · exact reorders
  · exact reorders.declareType scope content.name
  · exact (reorders.declareType scope inner.parts.name).attach inner.parts.scope (some scope)

/-- A type can be declared before or after a class is nested. -/
theorem declare_nested_comm (scope : Id) (type : String) (inner : Class) (forest : Forest) :
    ((Addition.nested inner).declare scope (forest.declareType scope type)).Reorders
      (((Addition.nested inner).declare scope forest).declareType scope type) := by
  have declared := forest.reorders_declareType_comm scope scope type inner.parts.name
  have nested := Forest.reorders_attach_declareType
    (forest.declareType scope inner.parts.name) scope inner.parts.scope type (some scope)
  exact Forest.Reorders.equivalence.trans
    (declared.attach inner.parts.scope (some scope)) nested

theorem declare_comm (scope : Id) (first second : Addition Class) (forest : Forest)
    (apart : first.kind ≠ second.kind) :
    (second.declare scope (first.declare scope forest)).Reorders
      (first.declare scope (second.declare scope forest)) := by
  have same := Forest.Reorders.equivalence
  rcases first with (_ | _ | _ | content) | inner
  case nested =>
    rcases second with (_ | _ | _ | otherContent) | otherInner
    case nested => exact absurd rfl apart
    case member.enumeration =>
      exact same.symm (declare_nested_comm scope otherContent.name inner forest)
    all_goals exact same.refl _
  case member.enumeration =>
    rcases second with (_ | _ | _ | otherContent) | otherInner
    case nested => exact declare_nested_comm scope content.name otherInner forest
    case member.enumeration => exact absurd rfl apart
    all_goals exact same.refl _
  all_goals exact same.refl _

end Addition

namespace Class

/-- Calls of different kinds commute, up to the order in which types are declared. -/
theorem commuteUpTo_addStep :
    CommuteUpTo (fun state other => state.1 = other.1 ∧ state.2.Reorders other.2)
      Addition.kind addStep where
  equivalence :=
    ⟨fun _ => ⟨rfl, Forest.Reorders.equivalence.refl _⟩,
      fun same => ⟨same.1.symm, Forest.Reorders.equivalence.symm same.2⟩,
      fun same further =>
        ⟨same.1.trans further.1, Forest.Reorders.equivalence.trans same.2 further.2⟩⟩
  respects := by
    rintro addition ⟨owner, forest⟩ ⟨_, other⟩ ⟨rfl, reorders⟩
    rw [addStep, addStep, run_add, run_add]
    exact ⟨rfl, addition.declare_respects _ reorders⟩
  commutes := by
    rintro first second ⟨owner, forest⟩ apart
    simp only [addStep, run_add, scope_withAddition]
    exact ⟨owner.withAddition_comm first second apart,
      Addition.declare_comm _ first second forest apart⟩

/-- A class resembles itself in a forest where types are declared in another order. -/
theorem resembles_self {forest other : Forest} (reorders : forest.Reorders other)
    (owner : Class) : owner.Resembles forest other owner := by
  induction owner using induction_on with
  | step parts nested inductionHypothesis =>
      refine .intro ⟨rfl, rfl, rfl, rfl, ?_, ?_, ?_, ?_⟩ (List.forall₂_same.mpr inductionHypothesis)
      · exact List.forall₂_same.mpr fun enumeration _ =>
          .of_stays enumeration (reorders.seesAlike _) rfl
      · refine List.forall₂_same.mpr fun function _ =>
          .of_stays function (reorders.seesAlike _) ?_
        cases function <;> rfl
      · exact List.forall₂_same.mpr fun data _ => .of_stays data (reorders.seesAlike _) rfl
      · exact List.forall₂_same.mpr fun array _ => .of_stays array (reorders.seesAlike _) rfl

/-- However calls of different kinds are interleaved, the class that they lead to is checked
alike and written alike to every sink, in every form, whatever the producers give; and
from every link, types are resolved alike afterwards. -/
theorem interleaved_additions_read_alike (owner : Class) (forest : Forest)
    {first second : List (Addition Class)} (same : Interleaves Addition.kind first second)
    (produced : Nat → List String) :
    let (one, scopes) := (owner.addAll first).run forest
    let (other, otherScopes) := (owner.addAll second).run forest
    one.validate ⟨scopes, produced⟩ = other.validate ⟨otherScopes, produced⟩ ∧
      (∀ form sink,
        ((Element.classType one).write ⟨scopes, produced⟩ form).runOn sink =
          ((Element.classType other).write ⟨otherScopes, produced⟩ form).runOn sink) ∧
      ∀ link type separator,
        scopes.resolveType link type separator = otherScopes.resolveType link type separator := by
  have related := same.related_foldl commuteUpTo_addStep (owner, forest)
  rw [run_addAll, run_addAll]
  generalize first.foldl addStep (owner, forest) = one at related ⊢
  generalize second.foldl addStep (owner, forest) = other at related ⊢
  rcases one with ⟨one, scopes⟩
  rcases other with ⟨_, otherScopes⟩
  obtain ⟨rfl, reorders⟩ := related
  have alike := (one.resembles_self reorders).readsAlike produced
  exact ⟨alike.validate, alike.runOn_write, fun link =>
    (reorders.seesAlike link).resolveType_eq⟩

end Class

namespace Lamp

/-- The type that the method returns. -/
def type : Addition Class := .member (.enumeration { name := "Color", items := ["Red"] })

/-- A method whose type has to be found in the class. -/
def method : Addition Class :=
  .member (.function (.method
    { name := "color", returnType := some "Color", body := some [.line "return eRed;"] }))

/-- A class, after calls to the one that has just been made. -/
def filled (calls : List (Addition Class)) : Class × Forest :=
  let (lamp, scopes) := (Class.create "Lamp").run .empty
  (lamp.addAll calls).run scopes

/-- Write the definitions of the class after the calls. -/
def write (calls : List (Addition Class)) : Procedure Unit :=
  (Element.classType (filled calls).1).write (.ofScopes (filled calls).2) .definition

end Lamp

open Lamp in
/-- A type that is added behind the method that uses it is qualified there all the same. -/
theorem late_type_is_qualified :
    Interleaves Addition.kind [type, method] [method, type] ∧
      (∀ sink, (write [type, method]).runOn sink = (write [method, type]).runOn sink) ∧
      ((write [method, type]).runOn ⟨.narrow, 0, ""⟩).1.text =
        "Lamp::Color Lamp::color() \x7b\n  return eRed;\n\x7d\n" := by
  have same : Interleaves Addition.kind [type, method] [method, type] := by
    intro asked
    cases asked <;> rfl
  obtain ⟨-, written, -⟩ := ((Class.create "Lamp").run .empty).1.interleaved_additions_read_alike
    ((Class.create "Lamp").run .empty).2 same fun _ => []
  refine ⟨same, written .definition, ?_⟩
  rw [write, Element.carriesOut_write]
  decide +kernel

end CppModel
