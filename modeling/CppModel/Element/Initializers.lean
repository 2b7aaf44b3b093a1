import CppModel.Rendering

/-!
# Initializer lists

The initializers of a constructor are a list, or they are taken from a producer
at the time when the constructor is written.  Initializers that are added later
follow, in the order in which they were added, and a replacement forgets all
that came before it.
-/

namespace CppModel

/-- The initializers of a constructor. -/
inductive Initializers
  /-- Known initializers. -/
  | known (list : List String)
  /-- The current list of a producer, and what was added behind it. -/
  | deferred (producer : Nat) (added : List String)
  deriving DecidableEq, Repr

namespace Initializers

instance : Inhabited Initializers := ⟨known []⟩

/-- The list as it is in the given context. -/
def resolve (context : Context) : Initializers → List String
  | known list => list
  | deferred producer added => context.produced producer ++ added

/-- One more initializer at the end. -/
def push (initializers : Initializers) (initializer : String) : Initializers :=
  match initializers with
  | known list => known (list ++ [initializer])
  | deferred producer added => deferred producer (added ++ [initializer])

/-- What follows the header of the constructor: nothing for the empty list. -/
def clause (context : Context) (initializers : Initializers) : String :=
  match initializers.resolve context with
  | [] => ""
  | list => " : " ++ ", ".intercalate list

/-- An initializer that was added stands at the end, whatever the producer
gives. -/
@[simp]
theorem resolve_push (context : Context) (initializers : Initializers) (initializer : String) :
    (initializers.push initializer).resolve context =
      initializers.resolve context ++ [initializer] := by
  cases initializers with
  | known list => rfl
  | deferred producer added => simp [push, resolve]

end Initializers

end CppModel
