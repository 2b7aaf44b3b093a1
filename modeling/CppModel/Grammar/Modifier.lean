/-!
# Modifiers

The keywords that change what a declaration means, and the sets of them that a
member function carries.
-/

namespace CppModel

/-- A keyword that changes the meaning of a declaration. -/
inductive Modifier
  | static
  | const
  | constexpr
  | virtual
  | pureVirtual
  | override
  | final
  | inline
  /-- The keyword of a variable that is defined in another source file. -/
  | external
  deriving DecidableEq, Repr

namespace Modifier

/-- The modifiers of member functions, in the order in which they are named
when several are wrong. -/
def ofMethods : List Modifier :=
  [static, constexpr, virtual, inline, pureVirtual, const, override, final]

/-- The name of a modifier in messages. -/
def word : Modifier → String
  | static => "static"
  | const => "const"
  | constexpr => "constexpr"
  | virtual => "virtual"
  | pureVirtual => "pure virtual"
  | override => "override"
  | final => "final"
  | inline => "inline"
  | external => "extern"

/-- The words tell the modifiers apart. -/
theorem word_injective : ∀ first second : Modifier, first.word = second.word → first = second := by
  intro first second
  cases first <;> cases second <;> decide

end Modifier

/-- The modifiers of a member function. -/
structure Modifiers where
  isStatic : Bool := false
  isConst : Bool := false
  isConstexpr : Bool := false
  isVirtual : Bool := false
  isPureVirtual : Bool := false
  isOverride : Bool := false
  isFinal : Bool := false
  isInline : Bool := false
  deriving DecidableEq, Repr

namespace Modifiers

/-- The set without any modifier. -/
def plain : Modifiers := {}

instance : Inhabited Modifiers := ⟨plain⟩

/-- Whether a modifier is set.  A member function is never `extern`. -/
def has (modifiers : Modifiers) : Modifier → Bool
  | .static => modifiers.isStatic
  | .const => modifiers.isConst
  | .constexpr => modifiers.isConstexpr
  | .virtual => modifiers.isVirtual
  | .pureVirtual => modifiers.isPureVirtual
  | .override => modifiers.isOverride
  | .final => modifiers.isFinal
  | .inline => modifiers.isInline
  | .external => false

/-- Set or clear a modifier.  A member function has no place for `extern`, which
is ignored. -/
def set (modifiers : Modifiers) (modifier : Modifier) (value : Bool) : Modifiers :=
  match modifier with
  | .static => { modifiers with isStatic := value }
  | .const => { modifiers with isConst := value }
  | .constexpr => { modifiers with isConstexpr := value }
  | .virtual => { modifiers with isVirtual := value }
  | .pureVirtual => { modifiers with isPureVirtual := value }
  | .override => { modifiers with isOverride := value }
  | .final => { modifiers with isFinal := value }
  | .inline => { modifiers with isInline := value }
  | .external => modifiers

/-- The modifiers that are set, in the order of `Modifier.ofMethods`. -/
def toList (modifiers : Modifiers) : List Modifier :=
  Modifier.ofMethods.filter modifiers.has

/-- The set of the given modifiers. -/
def ofList (list : List Modifier) : Modifiers :=
  list.foldl (fun modifiers modifier => modifiers.set modifier true) plain

/-- Whether no modifier is set. -/
def isEmpty (modifiers : Modifiers) : Bool :=
  modifiers.toList.isEmpty

/-- Setting a modifier changes this modifier only. -/
theorem has_set (modifiers : Modifiers) (changed asked : Modifier) (value : Bool)
    (settable : changed ≠ .external) :
    (modifiers.set changed value).has asked =
      if asked = changed then value else modifiers.has asked := by
  cases changed with
  | external => exact absurd rfl settable
  | _ => cases asked <;> rfl

end Modifiers

end CppModel
