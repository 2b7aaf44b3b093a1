import CppModel.Proofs.Validation.Failure

/-!
# Checked elements

An element that is not valid is refused in each of its forms with the error of its
check.  A valid one can be declared.  For a `constexpr` function this needs a body,
which the check has asked for.

Whether a valid element can also be defined depends on its body, and is told by the
error that is missing here.
-/

namespace CppModel

open Rendering (Heeds heeds_bind heeds_ite)

namespace FreeFunction

theorem heeds_render (function : FreeFunction) : Heeds function.validate function.render :=
  heeds_bind _

theorem heeds_declaration (function : FreeFunction) :
    Heeds function.validate function.declaration :=
  heeds_bind _

theorem heeds_definition (function : FreeFunction) :
    Heeds function.validate function.definition :=
  heeds_ite (heeds_bind _) function.heeds_render

variable {function : FreeFunction}

theorem body_isSome_of_isConstexpr (valid : function.validate = .ok ())
    (isConstexpr : function.isConstexpr = true) : function.body.isSome = true := by
  unfold validate at valid
  cases hasBody : function.body with
  | none => simp [isConstexpr, hasBody] at valid
  | some body => rfl

theorem failure?_render (valid : function.validate = .ok ()) :
    failure? function.render =
      if function.body.isSome then none
      else some (.missingImplementation .function function.name) := by
  rw [render, failure?_bind valid]
  cases function.body <;> rfl

theorem failure?_declaration (valid : function.validate = .ok ()) :
    failure? function.declaration = none := by
  rw [declaration, failure?_bind valid]
  by_cases isConstexpr : function.isConstexpr = true
  · rw [if_pos isConstexpr, failure?_render valid,
      if_pos (body_isSome_of_isConstexpr valid isConstexpr)]
  · rw [if_neg isConstexpr]
    rfl

theorem failure?_definition (valid : function.validate = .ok ()) :
    failure? function.definition =
      if function.isConstexpr || function.body.isSome then none
      else some (.missingImplementation .function function.name) := by
  rw [definition]
  cases function.isConstexpr with
  | true =>
      rw [if_pos rfl, failure?_bind valid]
      rfl
  | false => exact failure?_render valid

end FreeFunction

/-- Besides the conflicts and the requirements among modifiers there are two rules on the
body. -/
theorem Modifiers.check_eq_ok_iff (modifiers : Modifiers) (hasBody : Bool) :
    modifiers.check hasBody = .ok () ↔
      modifiers.findConflict = none ∧ modifiers.findRequirement = none ∧
        (modifiers.isPureVirtual = true → hasBody = false) ∧
          (modifiers.isConstexpr = true → hasBody = true) := by
  unfold check
  cases modifiers.findConflict with
  | some pair => simp
  | none =>
      cases modifiers.findRequirement with
      | some pair => simp
      | none =>
          cases modifiers.isPureVirtual with
          | true => cases modifiers.isConstexpr <;> cases hasBody <;> simp
          | false => cases modifiers.isConstexpr <;> cases hasBody <;> simp

theorem Modifiers.toList_eq_nil_iff (modifiers : Modifiers) :
    modifiers.toList = [] ↔ ∀ modifier, modifiers.has modifier = false := by
  rw [toList, List.filter_eq_nil_iff]
  constructor
  · intro none modifier
    cases modifier with
    | external => rfl
    | _ => exact Bool.eq_false_iff.mpr (none _ (by decide))
  · intro none modifier _
    rw [none modifier]
    exact Bool.false_ne_true

namespace Method

theorem heeds_render (context : Context) (method : Method) :
    Heeds (method.validate context) (method.render context) :=
  heeds_bind _

theorem heeds_declaration (context : Context) (method : Method) :
    Heeds (method.validate context) (method.declaration context) :=
  heeds_bind _

theorem heeds_definition (context : Context) (method : Method) :
    Heeds (method.validate context) (method.definition context) :=
  heeds_bind _

variable {context : Context} {method : Method}

theorem failure?_requireBody (kind : ElementKind) (method : Method) :
    failure? (method.requireBody kind) =
      if method.body.isSome then none else some (.missingImplementation kind method.name) := by
  rw [requireBody]
  cases method.body <;> rfl

theorem check_of_validate (valid : method.validate context = .ok ()) :
    method.modifiers.check method.body.isSome = .ok () := by
  rw [← failure?_eq_none_iff, validate, failure?_then, Option.or_eq_none_iff] at valid
  have modifiersPass := valid.1
  unfold checkModifiers at modifiersPass
  cases checked : method.modifiers.check method.body.isSome with
  | error violation =>
      rw [checked] at modifiersPass
      cases modifiersPass
  | ok passed => rfl

/-- The check of the modifiers asks a `constexpr` method for its body. -/
theorem body_isSome_of_isConstexpr (valid : method.validate context = .ok ())
    (isConstexpr : method.modifiers.isConstexpr = true) : method.body.isSome = true := by
  rcases (Modifiers.check_eq_ok_iff _ _).mp (check_of_validate valid) with ⟨_, _, _, needsBody⟩
  exact needsBody isConstexpr

/-- A pure virtual method is not accepted with a body. -/
theorem body_eq_none_of_isPureVirtual (valid : method.validate context = .ok ())
    (isPureVirtual : method.modifiers.isPureVirtual = true) : method.body = none := by
  rcases (Modifiers.check_eq_ok_iff _ _).mp (check_of_validate valid) with ⟨_, _, noBody, _⟩
  rw [← Option.isNone_iff_eq_none, ← Option.isSome_eq_false_iff]
  exact noBody isPureVirtual

/-- Behind the check, what needs a body fails without one. -/
theorem failure?_around (kind : ElementKind) (method : Method) (around : Script → Script) :
    failure? (method.requireBody kind >>= fun body => pure (around body)) =
      if method.body.isSome then none else some (.missingImplementation kind method.name) := by
  rw [← failure?_requireBody]
  cases method.requireBody kind <;> rfl

theorem failure?_declaration (valid : method.validate context = .ok ()) :
    failure? (method.declaration context) = none := by
  rw [declaration, failure?_bind valid]
  by_cases isConstexpr : method.modifiers.isConstexpr = true
  · rw [if_pos isConstexpr, render, failure?_bind valid, failure?_around,
      if_pos (body_isSome_of_isConstexpr valid isConstexpr)]
  · rw [if_neg isConstexpr]
    rfl

theorem failure?_definition (valid : method.validate context = .ok ())
    (impure : method.modifiers.isPureVirtual = false) :
    failure? (method.definition context) =
      if method.body.isSome then none
      else some (.missingImplementation .method method.name) := by
  rw [definition, failure?_bind valid, impure]
  exact failure?_around _ _ _

end Method

namespace Constructor

theorem heeds_render (context : Context) (constructor : Constructor) :
    Heeds (constructor.validate context) (constructor.render context) :=
  heeds_bind _

theorem heeds_declaration (context : Context) (constructor : Constructor) :
    Heeds (constructor.validate context) (constructor.declaration context) :=
  heeds_bind _

theorem heeds_definition (context : Context) (constructor : Constructor) :
    Heeds (constructor.validate context) (constructor.definition context) :=
  heeds_bind _

/-- A constructor is plain if no modifier is set and there is no return type. -/
theorem checkPlain_eq_ok_iff (constructor : Constructor) :
    constructor.checkPlain = .ok () ↔
      (∀ modifier, constructor.modifiers.has modifier = false) ∧
        constructor.returnType.isSome = false := by
  rw [← Modifiers.toList_eq_nil_iff, checkPlain]
  cases constructor.modifiers.toList with
  | nil => cases constructor.returnType <;> simp
  | cons modifier rest => simp

variable {context : Context} {constructor : Constructor}

theorem checkPlain_of_validate (valid : constructor.validate context = .ok ()) :
    constructor.checkPlain = .ok () := by
  rw [← failure?_eq_none_iff, validate, failure?_then, Option.or_eq_none_iff] at valid
  exact (failure?_eq_none_iff _).mp valid.1

theorem failure?_declaration (valid : constructor.validate context = .ok ()) :
    failure? (constructor.declaration context) = none := by
  rw [declaration, failure?_bind valid]
  rfl

theorem failure?_definition (valid : constructor.validate context = .ok ()) :
    failure? (constructor.definition context) =
      if constructor.body.isSome then none
      else some (.missingImplementation .constructor constructor.name) := by
  rw [definition, failure?_bind valid]
  exact Method.failure?_around _ _ _

end Constructor

namespace MemberFunction

theorem heeds_declaration (context : Context) (function : MemberFunction) :
    Heeds (function.validate context) (function.declaration context) := by
  cases function with
  | method content => exact content.heeds_declaration context
  | constructor content => exact content.heeds_declaration context

theorem heeds_definition (context : Context) (function : MemberFunction) :
    Heeds (function.validate context) (function.definition context) := by
  cases function with
  | method content => exact content.heeds_definition context
  | constructor content => exact content.heeds_definition context

theorem failure?_declaration {context : Context} {function : MemberFunction}
    (valid : function.validate context = .ok ()) :
    failure? (function.declaration context) = none := by
  cases function with
  | method content => exact Method.failure?_declaration valid
  | constructor content => exact Constructor.failure?_declaration valid

end MemberFunction

namespace Variable

theorem heeds_render (data : Variable) : Heeds data.validate data.render :=
  heeds_bind _

theorem heeds_declaration (context : Context) (data : Variable) :
    Heeds data.validate (data.declaration context) :=
  heeds_ite (heeds_bind _) data.heeds_render

theorem heeds_definition (context : Context) (data : Variable) :
    Heeds data.validate (data.definition context) :=
  heeds_bind _

variable {data : Variable}

theorem failure?_declaration (context : Context) (valid : data.validate = .ok ()) :
    failure? (data.declaration context) = none := by
  rw [declaration]
  split
  · rw [failure?_bind valid]
    rfl
  · rw [render, failure?_bind valid]
    rfl

theorem failure?_definition (context : Context) (valid : data.validate = .ok ()) :
    failure? (data.definition context) = none := by
  rw [definition, failure?_bind valid]
  split <;> rfl

end Variable

namespace ArrayVariable

theorem heeds_render (array : ArrayVariable) : Heeds array.validate array.render :=
  heeds_bind _

theorem heeds_declaration (context : Context) (array : ArrayVariable) :
    Heeds array.validate (array.declaration context) :=
  heeds_ite (heeds_bind _) array.heeds_render

theorem heeds_definition (context : Context) (array : ArrayVariable) :
    Heeds array.validate (array.definition context) :=
  heeds_bind _

variable {array : ArrayVariable}

theorem failure?_declaration (context : Context) (valid : array.validate = .ok ()) :
    failure? (array.declaration context) = none := by
  rw [declaration]
  split
  · rw [failure?_bind valid]
    rfl
  · rw [render, failure?_bind valid]
    rfl

theorem failure?_definition (context : Context) (valid : array.validate = .ok ()) :
    failure? (array.definition context) = none := by
  rw [definition, failure?_bind valid]
  split <;> rfl

end ArrayVariable

end CppModel
