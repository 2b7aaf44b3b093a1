import CppModel.Proofs.Procedure.Units

/-!
# Layout and content

The layout of a text is its spaces, tabs and line ends, and the content is all the rest.
The content of what a script writes can be read off the script: the style and the level of
the sink decide about margins and about the line of a brace, and nowhere about a character
that shows.  A script also fails or not whatever the sink is.

An element is written as a script, so two sinks of any style and level are given the same
content, or none and the same error.
-/

namespace CppModel

open Procedure

/-- The characters that layout is made of. -/
def Text.isLayout (character : Char) : Bool :=
  character == ' ' || character == '\t' || character == '\n'

/-- A text without its spaces, tabs and line ends. -/
def contentOf (text : String) : List Char :=
  text.toList.filter (! Text.isLayout ·)

@[simp]
theorem contentOf_append (first second : String) :
    contentOf (first ++ second) = contentOf first ++ contentOf second := by
  rw [contentOf, String.toList_append, List.filter_append]
  rfl

@[simp]
theorem contentOf_empty : contentOf "" = [] :=
  rfl

@[simp]
theorem contentOf_newline : contentOf "\n" = [] :=
  rfl

/-! ## Sinks -/

namespace Sink

/-- A margin is nothing but layout. -/
@[simp]
theorem contentOf_margin (sink : Sink) : contentOf sink.margin = [] := by
  have isLayout : ∀ character ∈ sink.style.indent.unit, Text.isLayout character = true := by
    cases sink.style.indent with
    | spaces width =>
        intro character inUnit
        rw [List.eq_of_mem_replicate inUnit]
        rfl
    | tab => exact List.forall_mem_singleton.mpr rfl
  rw [contentOf, margin, String.toList_ofList, List.filter_eq_nil_iff, Style.margin]
  intro character inMargin
  obtain ⟨unit, isUnit, inUnit⟩ := List.mem_flatten.mp inMargin
  rw [List.eq_of_mem_replicate isUnit] at inUnit
  simp [isLayout character inUnit]

theorem contentOf_line (sink : Sink) (text : String) :
    contentOf (sink.line text).text = contentOf sink.text ++ contentOf text := by
  simp

theorem contentOf_label (sink : Sink) (text : String) :
    contentOf (sink.label text).text = contentOf sink.text ++ contentOf (text ++ ":") := by
  have ending : contentOf ":\n" = contentOf ":" := rfl
  simp [label, ending]

theorem contentOf_docLine (sink : Sink) (text : String) :
    contentOf (sink.docLine text).text = contentOf sink.text ++ contentOf text := by
  by_cases empty : text = ""
  · simp [docLine, empty]
  · simp [docLine, empty]

theorem contentOf_doc (sink : Sink) (text : String) :
    contentOf (sink.doc text).text =
      contentOf sink.text ++ (Documentation.dedent text).flatMap contentOf := by
  rw [doc]
  induction Documentation.dedent text generalizing sink with
  | nil => simp
  | cons first rest inductionHypothesis =>
      rw [List.foldl_cons, inductionHypothesis, contentOf_docLine, List.flatMap_cons,
        List.append_assoc]

/-- The styles differ in what stands between a header and its brace. -/
theorem contentOf_openBlock (sink : Sink) (header : String) :
    contentOf (sink.openBlock header).text =
      contentOf sink.text ++ (contentOf header ++ ['\x7b']) := by
  have brace : contentOf "\x7b" = ['\x7b'] := rfl
  have spacedBrace : contentOf " \x7b" = ['\x7b'] := rfl
  rw [openBlock]
  cases sink.style.braces <;> by_cases empty : header = "" <;>
    simp [indent, empty, brace, spacedBrace]

theorem contentOf_closeBlock (sink : Sink) (closing : String) :
    contentOf (sink.closeBlock closing).text =
      contentOf sink.text ++ ('\x7d' :: contentOf closing) := by
  have brace : contentOf "\x7d" = ['\x7d'] := rfl
  simp [closeBlock, dedent, brace]

end Sink

/-! ## Scripts -/

mutual

/-- The content that a step writes, and the reason of its failure. -/
def Step.content : Step → List Char × Option String
  | .line text => (contentOf text, none)
  | .blank => ([], none)
  | .raw text => (contentOf text, none)
  | .indent => ([], none)
  | .dedent => ([], none)
  | .label text => (contentOf (text ++ ":"), none)
  | .doc text => ((Documentation.dedent text).flatMap contentOf, none)
  | .block header closing body =>
      (contentOf header ++ '\x7b' :: ((Script.content body).1 ++ '\x7d' :: contentOf closing), none)
  | .guarded header closing body =>
      match Script.content body with
      | (inside, none) =>
          (contentOf header ++ '\x7b' :: (inside ++ '\x7d' :: contentOf closing), none)
      | (inside, some reason) => (contentOf header ++ '\x7b' :: inside, some reason)
  | .fail reason => ([], some reason)
  | .fork body keep =>
      match Script.content body with
      | (inside, none) => (if keep then inside else [], none)
      | (_, some reason) => ([], some reason)

/-- The content that a script writes up to its first failure, and the reason of it. -/
def Script.content : List Step → List Char × Option String
  | [] => ([], none)
  | step :: rest =>
      match Step.content step with
      | (front, none) => (front ++ (Script.content rest).1, (Script.content rest).2)
      | (front, some reason) => (front, some reason)

end

/-- The run adds the content to the sink, and ends with the failure that comes with it. -/
def Shows (content : List Char × Option String) (sink : Sink) (run : Sink × Option String) : Prop :=
  contentOf run.1.text = contentOf sink.text ++ content.1 ∧ run.2 = content.2

mutual

/-- On every sink, a step shows its content. -/
theorem Step.shows_run :
    (step : Step) → (sink : Sink) → Shows step.content sink (Step.run step sink)
  | .line text, sink => ⟨sink.contentOf_line text, rfl⟩
  | .blank, sink => by simp [Shows, Step.run, Step.content]
  | .raw text, sink => by simp [Shows, Step.run, Step.content]
  | .indent, sink => by simp [Shows, Step.run, Step.content, Sink.indent]
  | .dedent, sink => by simp [Shows, Step.run, Step.content, Sink.dedent]
  | .label text, sink => ⟨sink.contentOf_label text, rfl⟩
  | .doc text, sink => ⟨sink.contentOf_doc text, rfl⟩
  | .block header closing body, sink => by
      obtain ⟨inside, _⟩ := Script.shows_run body (sink.openBlock header)
      simp [Shows, Step.run, Step.content, Sink.contentOf_closeBlock, inside,
        Sink.contentOf_openBlock]
  | .guarded header closing body, sink => by
      have inside := Script.shows_run body (sink.openBlock header)
      rw [Step.run, Step.content]
      cases ended : Script.run body (sink.openBlock header) with
      | mk behind failure =>
          cases shown : Script.content body with
          | mk content reason =>
              rw [ended, shown] at inside
              obtain ⟨written, rfl⟩ := inside
              rw [Sink.contentOf_openBlock, List.append_assoc] at written
              cases failure with
              | none =>
                  constructor
                  · simp [Sink.contentOf_closeBlock, written]
                  · rfl
              | some reason =>
                  constructor
                  · simp [written]
                  · rfl
  | .fail reason, sink => by simp [Shows, Step.run, Step.content]
  | .fork body keep, sink => by
      have inside := Script.shows_run body sink.fork
      rw [Step.run, Step.content]
      cases ended : Script.run body sink.fork with
      | mk behind failure =>
          cases shown : Script.content body with
          | mk content reason =>
              rw [ended, shown] at inside
              obtain ⟨written, rfl⟩ := inside
              have isContent : contentOf behind.text = content := written
              cases failure with
              | none => cases keep <;> simp [Shows, isContent]
              | some reason => simp [Shows]

/-- On every sink, a script shows its content. -/
theorem Script.shows_run :
    (script : List Step) → (sink : Sink) →
      Shows (Script.content script) sink (Script.run script sink)
  | [], sink => by simp [Shows, Script.run, Script.content]
  | step :: rest, sink => by
      have first := Step.shows_run step sink
      rw [Script.run, Script.content]
      cases ended : Step.run step sink with
      | mk behind failure =>
          cases shown : Step.content step with
          | mk content reason =>
              rw [ended, shown] at first
              obtain ⟨written, rfl⟩ := first
              cases failure with
              | none =>
                  obtain ⟨restWritten, restEnds⟩ := Script.shows_run rest behind
                  exact ⟨by rw [restWritten, written, List.append_assoc], restEnds⟩
              | some reason => exact ⟨written, rfl⟩

end

/-- The content of what a script writes is the same on every sink. -/
theorem Script.contentOf_textAt (script : Script) (sink : Sink) :
    contentOf (script.textAt sink) = (Script.content script).1 :=
  (Script.shows_run script sink.fork).1

/-! ## Elements and units -/

namespace Procedure

/-- Two sinks of any style and level end the procedure in the same way, and if it succeeds,
the same content is added to both. -/
def HasFixedContent (procedure : Procedure Unit) : Prop :=
  ∀ first second : Sink,
    (procedure.runOn first).2 = (procedure.runOn second).2 ∧
      ((procedure.runOn first).2 = .ok () →
        ∃ firstPart secondPart : String,
          (procedure.runOn first).1.text = first.text ++ firstPart ∧
          (procedure.runOn second).1.text = second.text ++ secondPart ∧
          contentOf firstPart = contentOf secondPart)

theorem CarriesOut.hasFixedContent {procedure : Procedure Unit} {rendering : Rendering}
    (carriesOut : CarriesOut procedure rendering) : procedure.HasFixedContent := by
  intro first second
  rw [carriesOut, carriesOut]
  cases rendering with
  | error error =>
      constructor
      · rfl
      · rintro ⟨⟩
  | ok script =>
      constructor
      · rfl
      · intro _
        have sameContent : contentOf (script.textAt first) = contentOf (script.textAt second) := by
          rw [Script.contentOf_textAt, Script.contentOf_textAt]
        exact ⟨_, _, script.text_run first, script.text_run second, sameContent⟩

end Procedure

/-- The layout of what is written never changes its content: every element in every form and
every unit on either side ends in the same way on two sinks of any style and level, and adds
texts that differ in spaces, tabs and line ends at most. -/
theorem layout_keeps_content (context : Context) :
    (∀ (element : Element) (form : Form), (element.write context form).HasFixedContent) ∧
      ∀ (unit : TranslationUnit) (side : Side), (unit.write context side).HasFixedContent := by
  constructor
  · intro element form
    exact (element.carriesOut_write context form).hasFixedContent
  · intro unit side
    exact (unit.carriesOut_write context side).hasFixedContent

end CppModel
