import CppModel.Proofs.Procedure.Classes

/-!
# Units are written as they are rendered

Whether a blank line is due between two elements of a unit is read off the text that has
been joined so far.  That comes to the same as paragraphs, in which it is decided by the
elements alone.

With this, every element in every form and every unit on either side is both a procedure
and a rendering, and the procedure carries the rendering out.
-/

namespace CppModel

open Procedure Process

/-- Every element writes in each form what it is rendered to. -/
theorem Element.carriesOut_write (context : Context) (element : Element) (form : Form) :
    CarriesOut (element.write context form) (element.rendering context form) := by
  cases element with
  | function content =>
      cases form with
      | declaration => exact content.carriesOut_writeDeclaration
      | definition => exact content.carriesOut_writeDefinition
      | own => exact content.carriesOut_writeOwn
  | member content =>
      cases form with
      | declaration => exact content.carriesOut_writeDeclaration context
      | definition => exact content.carriesOut_writeDefinition context
      | own =>
          cases content with
          | method content => exact content.carriesOut_writeOwn context
          | constructor content => exact content.carriesOut_writeOwn context
  | data content =>
      cases form with
      | declaration => exact content.carriesOut_writeDeclaration context
      | definition => exact content.carriesOut_writeDefinition context
      | own => exact content.carriesOut_writeOwn
  | array content =>
      cases form with
      | declaration => exact content.carriesOut_writeDeclaration context
      | definition => exact content.carriesOut_writeDefinition context
      | own => exact content.carriesOut_writeOwn
  | enumeration content =>
      cases form with
      | declaration => exact content.carriesOut_writeOwn
      | definition => exact carriesOut_nothing
      | own => exact content.carriesOut_writeOwn
  | classType content =>
      cases form with
      | declaration => exact content.carriesOut_writeDeclaration context
      | definition => exact content.carriesOut_writeDefinition context
      | own => exact content.carriesOut_writeOwn context

namespace TranslationUnit

/-- The texts that have been joined: nothing, or the text so far. -/
def joinedTexts (joined : Sink) : List String :=
  if joined.isEmpty then [] else [joined.text]

theorem intercalate_joinedTexts (joined : Sink) :
    "\n".intercalate (joinedTexts joined) = joined.text := by
  by_cases empty : joined.text = "" <;> simp [joinedTexts, Sink.isEmpty, empty]

theorem intercalate_joinedTexts_joinChunk (joined chunk : Sink) (others : List String) :
    "\n".intercalate (joinedTexts (joinChunk joined chunk) ++ others) =
      "\n".intercalate
        (joinedTexts joined ++ ((if chunk.isEmpty then [] else [chunk.text]) ++ others)) := by
  by_cases silent : chunk.text = ""
  · simp [joinChunk, joinedTexts, Sink.isEmpty, silent]
  · by_cases empty : joined.text = ""
    · simp [joinChunk, joinedTexts, Sink.isEmpty, Sink.append, silent, empty]
    · simp [joinChunk, joinedTexts, Sink.isEmpty, Sink.append, Sink.blank, silent, empty,
        String.append_assoc]

theorem joinChunk_place (joined chunk : Sink) :
    (joinChunk joined chunk).style = joined.style ∧
      (joinChunk joined chunk).level = joined.level := by
  rw [joinChunk]
  by_cases silent : chunk.isEmpty
  · rw [if_pos silent]
    exact ⟨rfl, rfl⟩
  · rw [if_neg silent]
    by_cases empty : joined.isEmpty
    · rw [if_pos empty]
      exact ⟨rfl, rfl⟩
    · rw [if_neg empty]
      exact ⟨rfl, rfl⟩

/-- The procedure puts the texts of the scripts, without the empty ones, behind what has
been joined, or ends in the error. -/
def Joins (out joined : Sink) (procedure : Procedure Unit) : Except Error (List Script) → Prop
  | .ok scripts =>
      procedure.runOn joined =
        ({ joined with text :=
            "\n".intercalate (joinedTexts joined ++
              (scripts.map (Script.textAt out)).filter (! ·.isEmpty)) }, .ok ())
  | .error error => (procedure.runOn joined).2 = .error error

theorem joins_joinItems (out : Sink) {items : List (Procedure Unit)}
    {renderings : List Rendering} (carryOut : List.Forall₂ CarriesOut items renderings)
    (joined : Sink) : Joins out joined (joinItems out items) (Rendering.all renderings) := by
  induction carryOut generalizing joined with
  | nil => simp [Joins, joinItems, intercalate_joinedTexts]
  | @cons item rendering items renderings first restCarryOut inductionHypothesis =>
      rw [joinItems]
      cases rendering with
      | error error =>
          have stops : (onFork out item).runOn joined = (joined, .error error) := by
            rw [onFork, first]
            rfl
          rw [Rendering.all_error_cons, Joins, runOn_bind_error stops]
      | ok script =>
          have chunked : (onFork out item).runOn joined =
              (joined, .ok (Script.run script out.fork).1) := by
            rw [onFork, first]
            rfl
          have behind := inductionHypothesis (joinChunk joined (Script.run script out.fork).1)
          rw [Rendering.all]
          cases restAll : Rendering.all renderings with
          | error error =>
              rw [restAll] at behind
              change (Process.runOn _ _).2 = _
              rw [runOn_bind_ok chunked, runOn_bind_ok (runOn_change _ _)]
              exact behind
          | ok scripts =>
              rw [restAll, Joins, (joinChunk_place joined _).1, (joinChunk_place joined _).2,
                intercalate_joinedTexts_joinChunk, Script.isEmpty_run_fork,
                Script.text_run_fork] at behind
              change Process.runOn _ _ = _
              rw [runOn_bind_ok chunked, runOn_bind_ok (runOn_change _ _), behind, List.map_cons,
                List.filter_cons]
              by_cases silent : (script.textAt out).isEmpty <;> simp [silent]

/-- Every unit writes on each side what it is rendered to. -/
theorem carriesOut_write (context : Context) (unit : TranslationUnit) (side : Side) :
    CarriesOut (unit.write context side) (unit.rendering context side) := by
  rw [rendering_eq]
  apply carriesOut_require
  intro _ sink
  rw [runOn_bind_ok (runOn_get sink), whole, runOn_bind_ok (runOn_get sink)]
  have joins := joins_joinItems sink
    (forall₂_map (fun element => element.carriesOut_write context side.form) unit.items) sink.fork
  have shapes := unit.hasShape_items context side.form
  rw [Rendering.paragraphs, onFork]
  cases rendered : Rendering.all (unit.items.map (·.rendering context side.form)) with
  | error error =>
      rw [rendered] at joins
      generalize joinItems sink (unit.items.map (·.write context side.form)) = items at joins ⊢
      cases ended : items.runOn sink.fork with
      | mk written outcome =>
          rw [Joins, ended] at joins
          cases joins
          rfl
  | ok scripts =>
      rw [rendered, Joins] at joins
      rw [joins]
      rcases Rendering.total_and_visible_of_all shapes rendered with ⟨total, visible⟩
      change _ = ((Script.run (Script.paragraphs scripts) sink).1, _)
      rw [Script.run_paragraphs total, Script.map_textAt_nonempty visible]
      rfl

end TranslationUnit

end CppModel
