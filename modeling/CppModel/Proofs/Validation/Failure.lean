import CppModel.Proofs.Rendering.Forms

/-!
# First errors

A check and a rendering both end in an error or do not.  In a row of them the first
error is the one that is reported, so the error of a row is the first one among the
errors of its parts.

A rendering heeds a check if it ends in the error of the check whenever there is one.
Every rendering begins with a check, which is enough.
-/

namespace CppModel

variable {Value Next Item : Type}

/-- The error that something ended in, if it did. -/
def failure? : Except Error Value → Option Error
  | .error error => some error
  | .ok _ => none

@[simp]
theorem failure?_ok (value : Value) : failure? (.ok value) = none :=
  rfl

@[simp]
theorem failure?_error (error : Error) :
    failure? (.error error : Except Error Value) = some error :=
  rfl

theorem failure?_eq_some_iff (outcome : Except Error Value) (error : Error) :
    failure? outcome = some error ↔ outcome = .error error := by
  cases outcome <;> simp

theorem failure?_eq_none_iff (outcome : Except Error Unit) :
    failure? outcome = none ↔ outcome = .ok () := by
  cases outcome <;> simp

/-- Behind a step that succeeds, the rest decides. -/
theorem failure?_bind {first : Except Error Value} {value : Value} (succeeded : first = .ok value)
    (next : Value → Except Error Next) : failure? (first >>= next) = failure? (next value) := by
  rw [succeeded]
  rfl

/-- Two checks end in the error of the first one, or else of the second one. -/
theorem failure?_then (first : Except Error Unit) (second : Except Error Value) :
    failure? (first >>= fun _ => second) = (failure? first).or (failure? second) := by
  cases first <;> rfl

/-- The first error of a row depends on the errors of its items alone. -/
theorem findSome?_congr {items : List Item} {first second : Item → Option Error}
    (same : ∀ item ∈ items, first item = second item) :
    items.findSome? first = items.findSome? second := by
  induction items with
  | nil => rfl
  | cons item rest inductionHypothesis =>
      rw [List.findSome?_cons, List.findSome?_cons, same item List.mem_cons_self,
        inductionHypothesis fun other listed => same other (List.mem_cons_of_mem _ listed)]

theorem failure?_validateAll (validate : Item → Except Error Unit) (items : List Item) :
    failure? (validateAll validate items) = items.findSome? (failure? <| validate ·) := by
  induction items with
  | nil => rfl
  | cons item rest inductionHypothesis =>
      rw [validateAll, failure?_then, inductionHypothesis, List.findSome?_cons]
      cases failure? (validate item) <;> rfl

theorem validateAll_eq_ok_iff (validate : Item → Except Error Unit) (items : List Item) :
    validateAll validate items = .ok () ↔ ∀ item ∈ items, validate item = .ok () := by
  simp only [← failure?_eq_none_iff, failure?_validateAll, List.findSome?_eq_none_iff]

namespace Rendering

theorem failure?_all (renderings : List Rendering) :
    failure? (all renderings) = renderings.findSome? failure? := by
  induction renderings with
  | nil => rfl
  | cons first rest inductionHypothesis =>
      cases first with
      | error error => rfl
      | ok script =>
          rw [List.findSome?_cons, failure?_ok, ← inductionHypothesis]
          cases restAll : all rest <;> simp [all, restAll, bind, Except.bind, pure, Except.pure]

theorem failure?_paragraphs (renderings : List Rendering) :
    failure? (paragraphs renderings) = renderings.findSome? failure? := by
  rw [← failure?_all, paragraphs]
  cases all renderings <;> rfl

/-- The rendering ends in the error of the check, if there is one. -/
def Heeds (check : Except Error Unit) (rendering : Rendering) : Prop :=
  ∀ error, check = .error error → rendering = .error error

variable {check : Except Error Unit} {rendering : Rendering}

theorem heeds_bind (next : Unit → Rendering) : Heeds check (check >>= next) := by
  rintro error rfl
  rfl

theorem heeds_ite {condition : Prop} [Decidable condition] {first second : Rendering}
    (firstHeeds : Heeds check first) (secondHeeds : Heeds check second) :
    Heeds check (if condition then first else second) := by
  intro error failed
  split
  · exact firstHeeds error failed
  · exact secondHeeds error failed

/-- Paragraphs heed a check that the first of them heeds. -/
theorem heeds_paragraphs (heeds : Heeds check rendering) (rest : List Rendering) :
    Heeds check (paragraphs (rendering :: rest)) := by
  intro error failed
  rw [heeds error failed]
  rfl

end Rendering

end CppModel
