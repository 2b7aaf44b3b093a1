import CppModel.Proofs.Procedure.Units
import CppModel.Proofs.Validation.Models

/-!
# The check decides

What has been said about renderings is said here about procedures, which write while
they go through an element.  A procedure that carries out a rendering ends in the same
way on every sink, and it ends in an error exactly if the rendering has this error.

So one look at an element, before anything is written, tells how its declaration will
end, and one look at a model tells which body its source lacks first.
-/

namespace CppModel

open Procedure

namespace Procedure

/-- The procedure ends in the outcome, whatever sink it writes to. -/
def Ends (procedure : Procedure Unit) (outcome : Except Error Unit) : Prop :=
  ∀ sink, (procedure.runOn sink).2 = outcome

variable {procedure : Procedure Unit} {rendering : Rendering}

theorem CarriesOut.ends_error_iff (carriesOut : CarriesOut procedure rendering) (error : Error) :
    Ends procedure (.error error) ↔ failure? rendering = some error := by
  rw [Ends]
  simp only [carriesOut _]
  cases rendering <;> simp [Sink.write]

theorem CarriesOut.ends_ok_iff (carriesOut : CarriesOut procedure rendering) :
    Ends procedure (.ok ()) ↔ failure? rendering = none := by
  rw [Ends]
  simp only [carriesOut _]
  cases rendering <;> simp [Sink.write]

end Procedure

/-- An element that fails its check is refused with the same error in every form. -/
theorem Element.ends_error_of_check {context : Context} {element : Element} {error : Error}
    (refused : element.validate context = .error error) (form : Form) :
    Ends (element.write context form) (.error error) := by
  rw [(element.carriesOut_write context form).ends_error_iff, failure?_eq_some_iff]
  exact element.heeds_rendering context form error refused

theorem Element.ends_ok_of_check {context : Context} {element : Element}
    (valid : element.validate context = .ok ()) :
    Ends (element.write context .declaration) (.ok ()) := by
  rw [(element.carriesOut_write context .declaration).ends_ok_iff]
  exact Element.failure?_declaration valid

theorem TranslationUnit.ends_error_of_check {context : Context} {unit : TranslationUnit}
    {error : Error} (refused : unit.validate context = .error error) (side : Side) :
    Ends (unit.write context side) (.error error) := by
  rw [(unit.carriesOut_write context side).ends_error_iff, failure?_eq_some_iff]
  exact unit.heeds_rendering context side error refused

theorem TranslationUnit.ends_ok_of_check {context : Context} {unit : TranslationUnit}
    (valid : unit.validate context = .ok ()) : Ends (unit.write context .header) (.ok ()) := by
  rw [(unit.carriesOut_write context .header).ends_ok_iff]
  exact TranslationUnit.failure?_header valid

/-- The error is one of those that a model cannot have. -/
def Error.isForeignToModels : Error → Bool
  | .orphan _ _ => true
  | .pureVirtualDefinition _ => true
  | _ => false

theorem Error.isForeignToModels_of_isGrammar {error : Error}
    (grammar : error.isGrammar = true) : error.isForeignToModels = false := by
  cases error <;> first | rfl | cases grammar

namespace Model

variable {model : Model}

theorem isForeignToModels_of_check {error : Error}
    (refused : model.build.1.validate model.build.2 = .error error) :
    error.isForeignToModels = false := by
  rw [← failure?_eq_some_iff] at refused
  exact Error.isForeignToModels_of_isGrammar (model.isGrammar_of_failure refused)

/-- What a side of the unit ends in is the error of the check, or a missing body. -/
theorem isForeignToModels_of_ends {side : Side} {error : Error}
    (ended : Ends (model.build.1.write model.build.2 side) (.error error)) :
    error.isForeignToModels = false := by
  rw [(model.build.1.carriesOut_write model.build.2 side).ends_error_iff] at ended
  cases checked : model.build.1.validate model.build.2 with
  | error reason =>
      rw [model.build.1.heeds_rendering model.build.2 side reason checked, failure?_error,
        Option.some.injEq] at ended
      subst ended
      exact isForeignToModels_of_check checked
  | ok passed =>
      cases side with
      | header =>
          rw [TranslationUnit.failure?_header checked] at ended
          cases ended
      | source =>
          rw [model.failure?_source checked, Option.map_eq_some_iff] at ended
          rcases ended with ⟨item, _, rfl⟩
          rfl

theorem ends_source_ok_iff (valid : model.build.1.validate model.build.2 = .ok ()) :
    Ends (model.build.1.write model.build.2 .source) (.ok ()) ↔
      ∀ item ∈ model.definables, item.isImplemented = true := by
  rw [(model.build.1.carriesOut_write model.build.2 .source).ends_ok_iff,
    model.failure?_source valid]
  simp

theorem ends_source_error (valid : model.build.1.validate model.build.2 = .ok ())
    {item : Definable} (first : model.definables.find? (! ·.isImplemented) = some item) :
    Ends (model.build.1.write model.build.2 .source)
      (.error (.missingImplementation item.kind item.name)) := by
  rw [(model.build.1.carriesOut_write model.build.2 .source).ends_error_iff,
    model.failure?_source valid, first]
  rfl

end Model

/-- The check of an element or a unit decides how it is written.  If it fails, every form
of the element and either side of the unit end in its error; if it passes, the declaration
and the header are written.

The unit that is built from a model is never refused as one that holds an orphan or the
definition of a pure virtual method.  If it is valid, its source is written exactly when
every function that needs a body has one, and otherwise ends in the error of the first
that has none. -/
theorem check_decides_writing :
    (∀ (context : Context) (element : Element),
      (∀ error, element.validate context = .error error →
        ∀ form, Ends (element.write context form) (.error error)) ∧
        (element.validate context = .ok () →
          Ends (element.write context .declaration) (.ok ()))) ∧
      (∀ (context : Context) (unit : TranslationUnit),
        (∀ error, unit.validate context = .error error →
          ∀ side, Ends (unit.write context side) (.error error)) ∧
          (unit.validate context = .ok () → Ends (unit.write context .header) (.ok ()))) ∧
      ∀ (model : Model) (unit : TranslationUnit) (context : Context),
        model.build = (unit, context) →
          (∀ error, unit.validate context = .error error → error.isForeignToModels = false) ∧
            (∀ side error, Ends (unit.write context side) (.error error) →
              error.isForeignToModels = false) ∧
            (unit.validate context = .ok () →
              (Ends (unit.write context .source) (.ok ()) ↔
                ∀ item ∈ model.definables, item.isImplemented = true) ∧
                ∀ item, model.definables.find? (! ·.isImplemented) = some item →
                  Ends (unit.write context .source)
                    (.error (.missingImplementation item.kind item.name))) := by
  constructor
  · intro context element
    constructor
    · intro error refused
      exact Element.ends_error_of_check refused
    · exact Element.ends_ok_of_check
  constructor
  · intro context unit
    constructor
    · intro error refused
      exact TranslationUnit.ends_error_of_check refused
    · exact TranslationUnit.ends_ok_of_check
  · intro model unit context built
    have parts : model.build.1 = unit ∧ model.build.2 = context := by
      rw [built]
      exact ⟨rfl, rfl⟩
    rcases parts with ⟨rfl, rfl⟩
    constructor
    · intro error refused
      exact Model.isForeignToModels_of_check refused
    constructor
    · intro side error ended
      exact Model.isForeignToModels_of_ends ended
    · intro valid
      constructor
      · exact Model.ends_source_ok_iff valid
      · intro item first
        exact Model.ends_source_error valid first

end CppModel
