import CppModel.Proofs.Validation.Classes

/-!
# What a source has to define

Of a valid unit, the source needs a body for every function that is defined there.  The
declarations that need one are listed in the order in which they are defined: the member
functions of a class, then those of its nested classes, depth first.  Static data needs
no body, and a valid variable or array never fails to be defined.

The first of the list that has no body is the one that is reported.
-/

namespace CppModel

/-- A function that a source has to define. -/
structure Definable where
  kind : ElementKind
  name : String
  isImplemented : Bool
  deriving DecidableEq, Repr

namespace Definable

/-- The error of a function that has no body. -/
def missing (item : Definable) : Error :=
  .missingImplementation item.kind item.name

/-- The error of the function, if it has no body. -/
def failure? (item : Definable) : Option Error :=
  if item.isImplemented then none else some item.missing

theorem findSome?_failure? (items : List Definable) :
    items.findSome? failure? = (items.find? (! ·.isImplemented)).map missing := by
  induction items with
  | nil => rfl
  | cons first rest inductionHypothesis =>
      rw [List.findSome?_cons, List.find?_cons, failure?, inductionHypothesis]
      cases first.isImplemented <;> rfl

end Definable

namespace FreeFunction

/-- The function as something that a source has to define. -/
def definable (function : FreeFunction) : Definable :=
  ⟨.function, function.name, function.body.isSome⟩

/-- What the source has to define of functions: a `constexpr` one is defined in the
header. -/
def definables (functions : List FreeFunction) : List Definable :=
  (functions.filter (! ·.isConstexpr)).map definable

theorem findSome?_definition {functions : List FreeFunction}
    (valid : ∀ function ∈ functions, function.validate = .ok ()) :
    functions.findSome? (failure? <| definition ·) =
      (definables functions).findSome? Definable.failure? := by
  induction functions with
  | nil => rfl
  | cons first rest inductionHypothesis =>
      have firstFailure := failure?_definition (valid first List.mem_cons_self)
      have restFailure := inductionHypothesis fun other listed =>
        valid other (List.mem_cons_of_mem _ listed)
      rw [definables] at restFailure ⊢
      rw [List.findSome?_cons, List.filter_cons, firstFailure, restFailure]
      cases first.isConstexpr with
      | true => rfl
      | false =>
          simp only [Bool.not_false, if_true, List.map_cons, List.findSome?_cons,
            Definable.failure?, definable, Bool.false_or, Definable.missing]

end FreeFunction

namespace MemberFunction

/-- The method or constructor as something that a source has to define. -/
def definable : MemberFunction → Definable
  | .method content => ⟨.method, content.name, content.body.isSome⟩
  | .constructor content => ⟨.constructor, content.name, content.body.isSome⟩

/-- A member function that is defined in the source fails there only for want of a
body. -/
theorem failure?_definition {context : Context} {function : MemberFunction}
    (valid : function.validate context = .ok ()) (needed : function.needsDefinition = true) :
    failure? (function.definition context) = function.definable.failure? := by
  cases function with
  | method content =>
      simp only [needsDefinition, Method.needsDefinition, Bool.and_eq_true,
        Bool.not_eq_true'] at needed
      exact Method.failure?_definition valid needed.1
  | constructor content => exact Constructor.failure?_definition valid

end MemberFunction

namespace ClassParts

/-- The member functions that the source has to define, nested classes apart. -/
def definables (parts : ClassParts) : List Definable :=
  (parts.functions.filter (·.needsDefinition)).map (·.definable)

theorem findSome?_definitions {context : Context} {parts : ClassParts}
    (valid : parts.validate context = .ok ()) :
    (parts.definitions context).findSome? failure? =
      parts.definables.findSome? Definable.failure? := by
  rcases (parts.validate_eq_ok_iff context).mp valid with
    ⟨functionsValid, dataValid, arraysValid⟩
  have dataDefined : ((parts.dataMembers.filter (·.needsDefinition)).map
      (·.definition context)).findSome? failure? = none := by
    rw [List.findSome?_eq_none_iff]
    intro rendering member
    rcases List.mem_map.mp member with ⟨data, listed, rfl⟩
    exact Variable.failure?_definition context (dataValid data (List.mem_filter.mp listed).1)
  have arraysDefined : ((parts.arrays.filter (·.needsDefinition)).map
      (·.definition context)).findSome? failure? = none := by
    rw [List.findSome?_eq_none_iff]
    intro rendering member
    rcases List.mem_map.mp member with ⟨array, listed, rfl⟩
    exact ArrayVariable.failure?_definition context
      (arraysValid array (List.mem_filter.mp listed).1)
  have functionsDefined : ∀ function ∈ parts.functions.filter (·.needsDefinition),
      failure? (function.definition context) = function.definable.failure? := by
    intro function listed
    rcases List.mem_filter.mp listed with ⟨isMember, needed⟩
    exact MemberFunction.failure?_definition (functionsValid function isMember) needed
  rw [definitions, List.findSome?_append, List.findSome?_append, dataDefined, arraysDefined,
    definables, List.findSome?_map, List.findSome?_map, Option.or_none, Option.none_or]
  exact findSome?_congr functionsDefined

end ClassParts

namespace Class

mutual

/-- The member functions that the source has to define: those of the class, then those
of the classes inside it. -/
def definables : Class → List Definable
  | ⟨parts, nested⟩ => parts.definables ++ definablesOfAll nested

/-- The member functions of a list of classes that the source has to define. -/
def definablesOfAll : List Class → List Definable
  | [] => []
  | inner :: rest => definables inner ++ definablesOfAll rest

end

mutual

theorem findSome?_definitions {context : Context} :
    (owner : Class) → owner.validate context = .ok () →
      (owner.definitions context).findSome? failure? =
        owner.definables.findSome? Definable.failure?
  | ⟨parts, nested⟩ => by
      intro valid
      rcases (validate_eq_ok_iff context _).mp valid with ⟨nestedValid, partsValid⟩
      rw [definitions, definables, List.findSome?_append, List.findSome?_append,
        ClassParts.findSome?_definitions partsValid,
        findSome?_nestedDefinitions nested nestedValid]

theorem findSome?_nestedDefinitions {context : Context} :
    (nested : List Class) → (∀ inner ∈ nested, inner.validate context = .ok ()) →
      (nestedDefinitions context nested).findSome? failure? =
        (definablesOfAll nested).findSome? Definable.failure?
  | [] => by
      intro _
      rfl
  | inner :: rest => by
      intro nestedValid
      rw [nestedDefinitions, definablesOfAll, List.findSome?_append, List.findSome?_append,
        findSome?_definitions inner (nestedValid inner List.mem_cons_self),
        findSome?_nestedDefinitions rest fun other listed =>
          nestedValid other (List.mem_cons_of_mem _ listed)]

end

/-- The definition of a valid class fails with the first of its functions that has no
body. -/
theorem failure?_definition {context : Context} {owner : Class}
    (valid : owner.validate context = .ok ()) :
    failure? (owner.definition context) = owner.definables.findSome? Definable.failure? := by
  rw [definition, failure?_bind valid, Rendering.failure?_paragraphs,
    findSome?_definitions owner valid]

theorem findSome?_definition {context : Context} {owners : List Class}
    (valid : ∀ owner ∈ owners, owner.validate context = .ok ()) :
    owners.findSome? (failure? <| definition context ·) =
      (definablesOfAll owners).findSome? Definable.failure? := by
  induction owners with
  | nil => rfl
  | cons first rest inductionHypothesis =>
      rw [List.findSome?_cons, definablesOfAll, List.findSome?_append,
        failure?_definition (valid first List.mem_cons_self),
        inductionHypothesis fun other listed => valid other (List.mem_cons_of_mem _ listed)]
      cases first.definables.findSome? Definable.failure? <;> rfl

end Class

end CppModel
