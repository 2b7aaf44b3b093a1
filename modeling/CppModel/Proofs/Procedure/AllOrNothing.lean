import CppModel.Proofs.Procedure.Units

/-!
# Writing is all or nothing

A procedure that carries out a rendering either leaves every sink as it was, with one
error, or adds one part to every sink, which depends on the style and the level alone.
Neither the outcome nor the part can depend on what was written before.

The level is a matter of its own, since a body may end at another level than it began.
Classes and units write to forks, and the level of a fork is forgotten; a function ends
where its body ends.
-/

namespace CppModel

namespace Procedure

/-- Whatever the sink holds, the procedure ends in an error that leaves it as it was, or
adds a part to its text that is determined by its style and its level. -/
def AllOrNothing (procedure : Procedure Unit) : Prop :=
  (∃ error, ∀ sink, procedure.runOn sink = (sink, .error error)) ∨
    ∃ part : Style → Nat → String, ∀ sink,
      (procedure.runOn sink).2 = .ok () ∧
        (procedure.runOn sink).1.style = sink.style ∧
        (procedure.runOn sink).1.text = sink.text ++ part sink.style sink.level

/-- The procedure ends at the given level if it begins there. -/
def KeepsLevel (procedure : Procedure Unit) (level : Nat) : Prop :=
  ∀ sink : Sink, sink.level = level → (procedure.runOn sink).1.level = level

variable {procedure : Procedure Unit} {rendering : Rendering} {body : Option Script}

theorem CarriesOut.allOrNothing (carriesOut : CarriesOut procedure rendering) :
    AllOrNothing procedure := by
  cases rendering with
  | error error => exact .inl ⟨error, carriesOut⟩
  | ok script =>
      -- The part is what the script writes on an empty sink in the same place.
      refine .inr ⟨fun style level => script.textAt ⟨style, level, ""⟩, fun sink => ?_⟩
      rw [carriesOut sink]
      constructor
      · rfl
      constructor
      · exact Script.style_run script sink
      · rw [Sink.write, Script.text_run]
        exact congrArg (sink.text ++ ·) (Script.textAt_eq_of_place script rfl rfl)

theorem CarriesOut.keepsLevel (carriesOut : CarriesOut procedure rendering)
    (shape : rendering.HasShape body) {level : Nat}
    (restores : ∀ content, body = some content → content.Restores (level + 1)) :
    KeepsLevel procedure level := by
  rintro sink rfl
  rw [carriesOut sink]
  cases rendering with
  | error error => rfl
  | ok script => exact (shape script rfl).level sink restores

end Procedure

open Procedure

/-- Every form of every element, and either side of every unit, is written entirely or
not at all, and as it is rendered.  The level is kept where the body of the element
restores it; classes and units keep it whatever the bodies in them do. -/
theorem write_allOrNothing (context : Context) :
    (∀ (element : Element) (form : Form),
      CarriesOut (element.write context form) (element.rendering context form) ∧
        AllOrNothing (element.write context form) ∧
        ∀ level, (∀ body, element.body = some body → body.Restores (level + 1)) →
          KeepsLevel (element.write context form) level) ∧
      (∀ (owner : Class) (form : Form) (level : Nat),
        KeepsLevel ((Element.classType owner).write context form) level) ∧
      ∀ (unit : TranslationUnit) (side : Side),
        CarriesOut (unit.write context side) (unit.rendering context side) ∧
          AllOrNothing (unit.write context side) ∧
          ∀ level, KeepsLevel (unit.write context side) level := by
  have forms : ∀ (element : Element) (form : Form) (level : Nat),
      (∀ body, element.body = some body → body.Restores (level + 1)) →
        KeepsLevel (element.write context form) level := by
    intro element form level restores
    have carriesOut := element.carriesOut_write context form
    exact carriesOut.keepsLevel (element.hasShape_rendering context form) restores
  constructor
  · intro element form
    have carriesOut := element.carriesOut_write context form
    exact ⟨carriesOut, carriesOut.allOrNothing, forms element form⟩
  constructor
  · intro owner form level
    apply forms
    intro body isBody
    cases isBody
  · intro unit side
    have carriesOut := unit.carriesOut_write context side
    refine ⟨carriesOut, carriesOut.allOrNothing, fun level => ?_⟩
    apply carriesOut.keepsLevel (unit.hasShape_rendering context side)
    intro body isBody
    cases isBody

end CppModel
