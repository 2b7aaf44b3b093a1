import CppModel.Proofs.Validation.Elements

/-!
# Checked classes and units

The check of a class asks its members in another order than its declaration writes
them, and the definitions are yet another selection.  This does not matter, since a
class asks for its own check before it writes anything: an invalid class is refused with
the error of the check, and in a valid one there is no member left that could refuse to
be declared.
-/

namespace CppModel

open Rendering (Heeds heeds_bind heeds_paragraphs)

theorem ClassParts.validate_eq_ok_iff (context : Context) (parts : ClassParts) :
    parts.validate context = .ok () ↔
      (∀ function ∈ parts.functions, function.validate context = .ok ()) ∧
        (∀ data ∈ parts.dataMembers, data.validate = .ok ()) ∧
          ∀ array ∈ parts.arrays, array.validate = .ok () := by
  simp only [validate, ← failure?_eq_none_iff, failure?_then, Option.or_eq_none_iff,
    failure?_validateAll, List.findSome?_eq_none_iff]

namespace Class

theorem validateNested_eq_validateAll (context : Context) (nested : List Class) :
    validateNested context nested = validateAll (validate context) nested := by
  induction nested with
  | nil => rfl
  | cons inner rest inductionHypothesis =>
      rw [validateNested, inductionHypothesis, validateAll]

theorem failure?_validate (context : Context) (owner : Class) :
    failure? (owner.validate context) =
      (owner.nested.findSome? (failure? <| validate context ·)).or
        (failure? (owner.parts.validate context)) := by
  cases owner with
  | mk parts nested =>
      rw [validate, failure?_then, validateNested_eq_validateAll, failure?_validateAll]

/-- A class is valid when its nested classes and its own members are. -/
theorem validate_eq_ok_iff (context : Context) (owner : Class) :
    owner.validate context = .ok () ↔
      (∀ inner ∈ owner.nested, inner.validate context = .ok ()) ∧
        owner.parts.validate context = .ok () := by
  rw [← failure?_eq_none_iff, failure?_validate, Option.or_eq_none_iff,
    List.findSome?_eq_none_iff, failure?_eq_none_iff]
  simp only [failure?_eq_none_iff]

theorem heeds_declaration (context : Context) (owner : Class) :
    Heeds (owner.validate context) (owner.declaration context) := by
  rw [declaration_eq]
  exact heeds_bind _

theorem heeds_definition (context : Context) (owner : Class) :
    Heeds (owner.validate context) (owner.definition context) :=
  heeds_bind _

theorem heeds_render (context : Context) (owner : Class) :
    Heeds (owner.validate context) (owner.render context) :=
  heeds_paragraphs (owner.heeds_declaration context) _

/-- Behind the check, a declaration fails only if a member fails. -/
theorem failure?_declaration_eq {context : Context} {owner : Class}
    (valid : owner.validate context = .ok ()) :
    failure? (owner.declaration context) =
      ((owner.publicDeclarations context).findSome? failure?).or
        ((owner.privateDeclarations context).findSome? failure?) := by
  rw [declaration_eq, failure?_bind valid, ← Rendering.failure?_all, ← Rendering.failure?_all]
  cases Rendering.all (owner.publicDeclarations context) with
  | error error => rfl
  | ok publicPart =>
      cases Rendering.all (owner.privateDeclarations context) with
      | error error => rfl
      | ok privatePart => rfl

mutual

/-- A valid class can be declared, with all classes inside it. -/
theorem failure?_declaration (context : Context) :
    (owner : Class) → owner.validate context = .ok () →
      failure? (owner.declaration context) = none
  | ⟨parts, nested⟩ => by
      intro valid
      rcases (validate_eq_ok_iff context _).mp valid with ⟨nestedValid, partsValid⟩
      rcases (parts.validate_eq_ok_iff context).mp partsValid with
        ⟨functionsValid, dataValid, arraysValid⟩
      rw [failure?_declaration_eq valid, Option.or_eq_none_iff, List.findSome?_eq_none_iff,
        List.findSome?_eq_none_iff]
      constructor
      · intro rendering member
        simp only [publicDeclarations, List.mem_append, List.mem_map] at member
        rcases member with (⟨enumeration, _, rfl⟩ | inNested) | ⟨function, listed, rfl⟩
        · rfl
        · exact failure?_nestedDeclarations context nested nestedValid rendering inNested
        · exact MemberFunction.failure?_declaration (functionsValid function listed)
      · intro rendering member
        simp only [privateDeclarations, ClassParts.privateDeclarations, List.mem_append,
          List.mem_map] at member
        rcases member with ⟨data, listed, rfl⟩ | ⟨array, listed, rfl⟩
        · exact Variable.failure?_declaration context (dataValid data listed)
        · exact ArrayVariable.failure?_declaration context (arraysValid array listed)

theorem failure?_nestedDeclarations (context : Context) :
    (nested : List Class) → (∀ inner ∈ nested, inner.validate context = .ok ()) →
      ∀ rendering ∈ nestedDeclarations context nested, failure? rendering = none
  | [] => by simp [nestedDeclarations]
  | inner :: rest => by
      intro nestedValid rendering member
      rw [nestedDeclarations, List.mem_cons] at member
      rcases member with rfl | later
      · exact failure?_declaration context inner (nestedValid inner List.mem_cons_self)
      · exact failure?_nestedDeclarations context rest
          (fun other listed => nestedValid other (List.mem_cons_of_mem _ listed)) rendering later

end

end Class

namespace Element

/-- An invalid element is refused in every form with the error of its check. -/
theorem heeds_rendering (context : Context) (element : Element) (form : Form) :
    Heeds (element.validate context) (element.rendering context form) := by
  cases element with
  | function content =>
      cases form with
      | declaration => exact content.heeds_declaration
      | definition => exact content.heeds_definition
      | own => exact content.heeds_render
  | member content =>
      cases form with
      | declaration => exact content.heeds_declaration context
      | definition => exact content.heeds_definition context
      | own =>
          cases content with
          | method content => exact content.heeds_render context
          | constructor content => exact content.heeds_render context
  | data content =>
      cases form with
      | declaration => exact content.heeds_declaration context
      | definition => exact content.heeds_definition context
      | own => exact content.heeds_render
  | array content =>
      cases form with
      | declaration => exact content.heeds_declaration context
      | definition => exact content.heeds_definition context
      | own => exact content.heeds_render
  | enumeration content =>
      intro error refused
      cases refused
  | classType content =>
      cases form with
      | declaration => exact content.heeds_declaration context
      | definition => exact content.heeds_definition context
      | own => exact content.heeds_render context

/-- A valid element can be declared. -/
theorem failure?_declaration {context : Context} {element : Element}
    (valid : element.validate context = .ok ()) :
    failure? (element.rendering context .declaration) = none := by
  cases element with
  | function content => exact FreeFunction.failure?_declaration valid
  | member content => exact MemberFunction.failure?_declaration valid
  | data content => exact Variable.failure?_declaration context valid
  | array content => exact ArrayVariable.failure?_declaration context valid
  | enumeration content => rfl
  | classType content => exact content.failure?_declaration context valid

end Element

namespace TranslationUnit

theorem validate_eq_ok_iff (context : Context) (unit : TranslationUnit) :
    unit.validate context = .ok () ↔
      ∀ element ∈ unit.items, element.validate context = .ok () :=
  validateAll_eq_ok_iff _ _

theorem heeds_rendering (context : Context) (unit : TranslationUnit) (side : Side) :
    Heeds (unit.validate context) (unit.rendering context side) := by
  rw [rendering_eq]
  exact heeds_bind _

/-- On either side, a valid unit fails with the first of its elements that fails. -/
theorem failure?_rendering {context : Context} {unit : TranslationUnit}
    (valid : unit.validate context = .ok ()) (side : Side) :
    failure? (unit.rendering context side) =
      unit.items.findSome? fun element => failure? (element.rendering context side.form) := by
  rw [rendering_eq, failure?_bind valid, Rendering.failure?_paragraphs, List.findSome?_map]
  rfl

/-- The header of a valid unit can be written. -/
theorem failure?_header {context : Context} {unit : TranslationUnit}
    (valid : unit.validate context = .ok ()) :
    failure? (unit.rendering context .header) = none := by
  rw [failure?_rendering valid, List.findSome?_eq_none_iff]
  intro element listed
  exact Element.failure?_declaration ((validate_eq_ok_iff context unit).mp valid element listed)

end TranslationUnit

end CppModel
