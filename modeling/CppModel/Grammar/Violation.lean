import CppModel.Grammar.Modifier

/-!
# The modifier grammar

Which modifiers a member function may carry together is said by two tables:
pairs that exclude each other, and modifiers that need another one.  Two more
rules tie the modifiers to the body.  The first broken rule is the one that is
reported, so the order of the tables is part of the grammar.
-/

namespace CppModel

/-- A broken rule of the grammar of declarations. -/
inductive Violation
  | conflict (modifier other : Modifier)
  | requirement (modifier needed : Modifier)
  | pureVirtualWithBody
  | constexprWithoutBody
  | constructorModifier (modifier : Modifier)
  | constructorReturnType
  | constexprWithoutValue
  | externalWithValue
  | unsizedArray
  deriving DecidableEq, Repr

namespace Violation

/-- What is wrong, in words. -/
def message : Violation → String
  | conflict modifier other => modifier.word ++ " cannot be combined with " ++ other.word
  | requirement modifier needed => modifier.word ++ " requires " ++ needed.word
  | pureVirtualWithBody => "pure virtual method cannot have an implementation"
  | constexprWithoutBody => "constexpr requires an implementation"
  | constructorModifier modifier => "constructor cannot be declared " ++ modifier.word
  | constructorReturnType => "constructor cannot have a return type"
  | constexprWithoutValue => "constexpr variable requires a value"
  | externalWithValue => "extern variable cannot be initialized"
  | unsizedArray => "array needs a size or at least one item"

/-- The modifiers that a violation is about. -/
def modifiers : Violation → List Modifier
  | conflict modifier other => [modifier, other]
  | requirement modifier needed => [modifier, needed]
  | constructorModifier modifier => [modifier]
  | _ => []

end Violation

namespace Modifiers

/-- Pairs of modifiers that exclude each other. -/
def exclusions : List (Modifier × Modifier) :=
  [(.static, .const), (.static, .virtual), (.static, .pureVirtual),
    (.constexpr, .virtual), (.constexpr, .pureVirtual),
    (.inline, .virtual), (.inline, .pureVirtual),
    (.const, .virtual), (.const, .pureVirtual)]

/-- Modifiers with the one that each of them needs. -/
def requirements : List (Modifier × Modifier) :=
  [(.override, .virtual), (.final, .virtual), (.pureVirtual, .virtual)]

/-- The first excluded pair that is set. -/
def findConflict (modifiers : Modifiers) : Option (Modifier × Modifier) :=
  exclusions.find? fun (modifier, other) => modifiers.has modifier && modifiers.has other

/-- The first modifier that is set without the one it needs. -/
def findRequirement (modifiers : Modifiers) : Option (Modifier × Modifier) :=
  requirements.find? fun (modifier, needed) => modifiers.has modifier && !modifiers.has needed

/-- Check the modifiers of a member function, where `hasBody` says whether it
has an implementation. -/
def check (modifiers : Modifiers) (hasBody : Bool) : Except Violation Unit :=
  match modifiers.findConflict with
  | some (modifier, other) => .error (.conflict modifier other)
  | none =>
      match modifiers.findRequirement with
      | some (modifier, needed) => .error (.requirement modifier needed)
      | none =>
          if modifiers.isPureVirtual && hasBody then .error .pureVirtualWithBody
          else if modifiers.isConstexpr && !hasBody then .error .constexprWithoutBody
          else .ok ()

/-- A reported conflict is an excluded pair that is set. -/
theorem mem_exclusions_of_findConflict {modifiers : Modifiers} {modifier other : Modifier}
    (found : modifiers.findConflict = some (modifier, other)) :
    (modifier, other) ∈ exclusions ∧ modifiers.has modifier = true ∧
      modifiers.has other = true := by
  have both := List.find?_some found
  simp only [Bool.and_eq_true] at both
  exact ⟨List.mem_of_find?_eq_some found, both⟩

/-- A reported requirement is a listed one that is not met. -/
theorem mem_requirements_of_findRequirement {modifiers : Modifiers}
    {modifier needed : Modifier}
    (found : modifiers.findRequirement = some (modifier, needed)) :
    (modifier, needed) ∈ requirements ∧ modifiers.has modifier = true ∧
      modifiers.has needed = false := by
  have both := List.find?_some found
  simp only [Bool.and_eq_true, Bool.not_eq_true'] at both
  exact ⟨List.mem_of_find?_eq_some found, both⟩

end Modifiers

end CppModel
