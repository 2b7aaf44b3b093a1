import CppModel.Sink.Script

/-!
# Scripts write locally

What a script writes depends on the style and the level of the sink and not on
the text that is already there.  Every operation of a sink commutes with putting
text in front of it, and so does every script: a fork starts from an empty text
either way, and appending it only adds behind the rest.

Documentation and lines leave the level alone, and so does a block whose inside
ends at the level where it began.
-/

namespace CppModel

namespace Sink

/-- The sink with other text in front of its own. -/
def behind (sink : Sink) (before : String) : Sink := { sink with text := before ++ sink.text }

@[simp]
theorem behind_fork (sink : Sink) : sink.fork.behind sink.text = sink := by
  simp [behind, fork]

@[simp]
theorem fork_behind (sink : Sink) (before : String) : (sink.behind before).fork = sink.fork :=
  rfl

@[simp]
theorem level_behind (sink : Sink) (before : String) : (sink.behind before).level = sink.level :=
  rfl

@[simp]
theorem style_behind (sink : Sink) (before : String) : (sink.behind before).style = sink.style :=
  rfl

theorem behind_raw (sink : Sink) (before text : String) :
    (sink.behind before).raw text = (sink.raw text).behind before := by
  simp [behind, raw, String.append_assoc]

theorem behind_line (sink : Sink) (before text : String) :
    (sink.behind before).line text = (sink.line text).behind before := by
  simp only [line, margin, behind_raw, style_behind, level_behind]

theorem behind_label (sink : Sink) (before text : String) :
    (sink.behind before).label text = (sink.label text).behind before := by
  simp only [label, margin, dedent, behind_raw, style_behind, level_behind]

theorem behind_docLine (sink : Sink) (before text : String) :
    (sink.behind before).docLine text = (sink.docLine text).behind before := by
  unfold docLine
  split
  · exact behind_raw sink before "\n"
  · exact behind_line sink before text

theorem behind_doc (sink : Sink) (before text : String) :
    (sink.behind before).doc text = (sink.doc text).behind before := by
  unfold doc
  induction Documentation.dedent text generalizing sink with
  | nil => rfl
  | cons first rest inductionHypothesis =>
      simp only [List.foldl_cons, behind_docLine]
      exact inductionHypothesis (sink.docLine first)

theorem behind_openBlock (sink : Sink) (before header : String) :
    (sink.behind before).openBlock header = (sink.openBlock header).behind before := by
  unfold openBlock
  rw [style_behind]
  cases sink.style.braces with
  | nextLine =>
      by_cases empty : header.isEmpty <;> simp only [empty, if_true, if_false, Bool.false_eq_true,
        behind_line] <;> rfl
  | sameLine => simp only [behind_line]; rfl

theorem behind_closeBlock (sink : Sink) (before closing : String) :
    (sink.behind before).closeBlock closing = (sink.closeBlock closing).behind before :=
  behind_line sink.dedent before _

theorem behind_append (sink fork : Sink) (before : String) :
    (sink.behind before).append fork = (sink.append fork).behind before :=
  behind_raw sink before fork.text

/-! ## Levels and styles -/

@[simp]
theorem level_docLine (sink : Sink) (text : String) : (sink.docLine text).level = sink.level := by
  rw [docLine]
  split <;> rfl

@[simp]
theorem level_doc (sink : Sink) (text : String) : (sink.doc text).level = sink.level := by
  rw [doc]
  induction Documentation.dedent text generalizing sink with
  | nil => rfl
  | cons first rest inductionHypothesis =>
      simp only [List.foldl_cons, inductionHypothesis, level_docLine]

@[simp]
theorem style_docLine (sink : Sink) (text : String) : (sink.docLine text).style = sink.style := by
  rw [docLine]
  split <;> rfl

@[simp]
theorem style_doc (sink : Sink) (text : String) : (sink.doc text).style = sink.style := by
  rw [doc]
  induction Documentation.dedent text generalizing sink with
  | nil => rfl
  | cons first rest inductionHypothesis =>
      simp only [List.foldl_cons, inductionHypothesis, style_docLine]

@[simp]
theorem style_openBlock (sink : Sink) (header : String) :
    (sink.openBlock header).style = sink.style := by
  rw [openBlock]
  cases sink.style.braces with
  | nextLine => by_cases empty : header.isEmpty <;> simp [empty, indent]
  | sameLine => rfl

@[simp]
theorem style_closeBlock (sink : Sink) (closing : String) :
    (sink.closeBlock closing).style = sink.style :=
  rfl

end Sink

mutual

/-- A step writes the same behind any text, and fails in the same way. -/
theorem Step.run_behind (before : String) :
    (step : Step) → (sink : Sink) →
      Step.run step (sink.behind before) =
        ((Step.run step sink).1.behind before, (Step.run step sink).2)
  | .line text, sink => by simp only [Step.run, Sink.behind_line]
  | .blank, sink => by simp only [Step.run, Sink.blank, Sink.behind_raw]
  | .raw text, sink => by simp only [Step.run, Sink.behind_raw]
  | .indent, sink => rfl
  | .dedent, sink => rfl
  | .label text, sink => by simp only [Step.run, Sink.behind_label]
  | .doc text, sink => by simp only [Step.run, Sink.behind_doc]
  | .block header closing body, sink => by
      simp only [Step.run, Sink.behind_openBlock, Script.run_behind before body,
        Sink.behind_closeBlock]
  | .guarded header closing body, sink => by
      simp only [Step.run, Sink.behind_openBlock, Script.run_behind before body]
      cases Script.run body (sink.openBlock header) with
      | mk inside failure =>
          cases failure with
          | none => simp only [Sink.behind_closeBlock]
          | some reason => rfl
  | .fail reason, sink => rfl
  | .fork body keep, sink => by
      simp only [Step.run, Sink.fork_behind]
      cases Script.run body sink.fork with
      | mk inside failure =>
          cases failure with
          | none => cases keep <;> simp [Sink.behind_append]
          | some reason => rfl

/-- A script writes the same behind any text, and fails in the same way. -/
theorem Script.run_behind (before : String) :
    (script : List Step) → (sink : Sink) →
      Script.run script (sink.behind before) =
        ((Script.run script sink).1.behind before, (Script.run script sink).2)
  | [], sink => by simp only [Script.run]
  | step :: rest, sink => by
      simp only [Script.run, Step.run_behind before step]
      cases Step.run step sink with
      | mk next failure =>
          cases failure with
          | none => exact Script.run_behind before rest next
          | some reason => rfl

end

mutual

/-- No step changes the style. -/
theorem Step.style_run : (step : Step) → (sink : Sink) → (Step.run step sink).1.style = sink.style
  | .line text, sink => rfl
  | .blank, sink => rfl
  | .raw text, sink => rfl
  | .indent, sink => rfl
  | .dedent, sink => rfl
  | .label text, sink => rfl
  | .doc text, sink => Sink.style_doc sink text
  | .block header closing body, sink => by
      simp only [Step.run, Sink.style_closeBlock, Script.style_run body, Sink.style_openBlock]
  | .guarded header closing body, sink => by
      have inner := Script.style_run body (sink.openBlock header)
      rw [Sink.style_openBlock] at inner
      simp only [Step.run]
      cases run_eq : Script.run body (sink.openBlock header) with
      | mk inside failure =>
          rw [run_eq] at inner
          cases failure with
          | none => simpa only [Sink.style_closeBlock] using inner
          | some reason => exact inner
  | .fail reason, sink => rfl
  | .fork body keep, sink => by
      simp only [Step.run]
      cases Script.run body sink.fork with
      | mk inside failure =>
          cases failure with
          | none => cases keep <;> rfl
          | some reason => rfl

/-- No script changes the style. -/
theorem Script.style_run :
    (script : List Step) → (sink : Sink) → (Script.run script sink).1.style = sink.style
  | [], sink => by simp only [Script.run]
  | step :: rest, sink => by
      have first := Step.style_run step sink
      simp only [Script.run]
      cases run_eq : Step.run step sink with
      | mk next failure =>
          rw [run_eq] at first
          cases failure with
          | none => exact (Script.style_run rest next).trans first
          | some reason => exact first

end

namespace Script

/-- A script adds to the text of the sink what it writes on a fork of it. -/
theorem text_run (script : Script) (sink : Sink) :
    (Script.run script sink).1.text = sink.text ++ script.textAt sink := by
  have local_run := run_behind sink.text script sink.fork
  rw [Sink.behind_fork] at local_run
  rw [local_run]
  rfl

theorem text_run_fork (script : Script) (sink : Sink) :
    (Script.run script sink.fork).1.text = script.textAt sink :=
  rfl

theorem isEmpty_run_fork (script : Script) (sink : Sink) :
    (Script.run script sink.fork).1.isEmpty = (script.textAt sink).isEmpty :=
  rfl

/-- What a script writes depends on the style and the level of the sink. -/
theorem textAt_eq_of_place (script : Script) {first second : Sink}
    (style : first.style = second.style) (level : first.level = second.level) :
    script.textAt first = script.textAt second := by
  have same : first.fork = second.fork := by
    simp [Sink.fork, style, level]
  rw [textAt, textAt, same]

end Script

end CppModel
