import CppModel.Proofs.Procedure.Basic

/-!
# Texts in their place

A sink is written to step by step, and its level moves while a block is open.  The text
that results can be said without either: a place is a style and a level, and lines,
documentation and blocks are texts that depend on the place they stand in.

A script prints a text in a place if all it does to a sink there is to add the text.  It
then ends at the level where it began, so that texts of scripts in a row stand in one
place.
-/

namespace CppModel

/-- Where a text stands: the layout conventions, and how deep it is nested. -/
structure Place where
  style : Style
  level : Nat
  deriving DecidableEq, Repr

namespace Place

/-- The place one level further in. -/
def inner (place : Place) : Place := ⟨place.style, place.level + 1⟩

/-- An empty sink in the place. -/
def sink (place : Place) : Sink := ⟨place.style, place.level, ""⟩

/-- A line behind its margin. -/
def line (place : Place) (text : String) : String :=
  String.ofList (place.style.margin place.level) ++ text ++ "\n"

/-- A line of documentation, where a blank line has no margin. -/
def docLine (place : Place) (text : String) : String :=
  if text.isEmpty then "\n" else place.line text

/-- Documentation, if there is any. -/
def documentation (place : Place) : Option String → String
  | some text => String.join ((Documentation.dedent text).map place.docLine)
  | none => ""

/-- The header and the opening brace of a block. -/
def opening (place : Place) (header : String) : String :=
  match place.style.braces with
  | .nextLine => (if header.isEmpty then "" else place.line header) ++ place.line "\x7b"
  | .sameLine => place.line (if header.isEmpty then "\x7b" else header ++ " \x7b")

/-- A block around a text that stands one level further in. -/
def block (place : Place) (header closing inside : String) : String :=
  place.opening header ++ inside ++ place.line ("\x7d" ++ closing)

end Place

namespace Sink

/-- Where a sink writes next. -/
def place (sink : Sink) : Place := ⟨sink.style, sink.level⟩

@[simp]
theorem place_raw (sink : Sink) (text : String) : (sink.raw text).place = sink.place :=
  rfl

theorem raw_raw (sink : Sink) (first second : String) :
    (sink.raw first).raw second = sink.raw (first ++ second) := by
  simp [raw, String.append_assoc]

theorem raw_empty (sink : Sink) : sink.raw "" = sink := by
  simp [raw]

theorem line_eq_raw (sink : Sink) (text : String) :
    sink.line text = sink.raw (sink.place.line text) := by
  rw [line, raw_raw, raw_raw, Place.line, String.append_assoc]
  rfl

theorem docLine_eq_raw (sink : Sink) (text : String) :
    sink.docLine text = sink.raw (sink.place.docLine text) := by
  rw [docLine, Place.docLine, line_eq_raw]
  split <;> rfl

theorem doc_eq_raw (sink : Sink) (text : String) :
    sink.doc text = sink.raw (sink.place.documentation (some text)) := by
  rw [doc, Place.documentation]
  induction Documentation.dedent text generalizing sink with
  | nil => exact sink.raw_empty.symm
  | cons first rest inductionHypothesis =>
      rw [List.foldl_cons, docLine_eq_raw, inductionHypothesis, place_raw, raw_raw,
        List.map_cons, String.join_cons]

theorem label_eq_raw (sink : Sink) (text : String) :
    sink.indent.label text = sink.indent.raw (sink.place.line (text ++ ":")) := by
  have ending : ":" ++ "\n" = ":\n" := rfl
  rw [label, raw_raw, raw_raw, Place.line, String.append_assoc, String.append_assoc, ending]
  rfl

theorem openBlock_eq_raw (sink : Sink) (header : String) :
    sink.openBlock header = (sink.raw (sink.place.opening header)).indent := by
  have braces : sink.place.style.braces = sink.style.braces := rfl
  rw [openBlock, Place.opening, braces]
  cases sink.style.braces with
  | nextLine =>
      by_cases empty : header.isEmpty
      · simp only [empty, if_true, line_eq_raw, String.empty_append]
      · simp only [empty, Bool.false_eq_true, if_false, line_eq_raw, raw_raw, place_raw]
  | sameLine => simp only [line_eq_raw]

/-- Behind its opening and what is written inside, a block goes back to its place. -/
theorem closeBlock_eq_raw (sink : Sink) (inside closing : String) :
    (sink.indent.raw inside).closeBlock closing =
      (sink.raw inside).raw (sink.place.line ("\x7d" ++ closing)) := by
  rw [closeBlock, line_eq_raw]
  rfl

end Sink

namespace Script

variable {place : Place} {script first second : Script} {text firstText secondText : String}

/-- In the place, all that the script does to a sink is to add the text. -/
def Prints (place : Place) (text : String) (script : Script) : Prop :=
  ∀ sink : Sink, sink.place = place → Script.run script sink = (sink.raw text, none)

theorem prints_nil (place : Place) : Prints place "" [] := by
  intro sink _
  rw [run_nil, Sink.raw_empty]

theorem Prints.append (prints : first.Prints place firstText)
    (secondPrints : second.Prints place secondText) :
    (first ++ second).Prints place (firstText ++ secondText) := by
  intro sink inPlace
  rw [run_append, prints sink inPlace]
  have behind := secondPrints (sink.raw firstText) inPlace
  rw [Sink.raw_raw] at behind
  exact behind

/-- What is printed is all that a run adds, and it does not fail. -/
theorem Prints.run_fst_eq (prints : script.Prints place text) (sink : Sink)
    (inPlace : sink.place = place) : (Script.run script sink).1 = sink.raw text := by
  rw [prints sink inPlace]

theorem Prints.textAt_eq (prints : script.Prints place text) :
    script.textAt place.sink = text := by
  rw [textAt, prints place.sink.fork rfl]
  exact String.empty_append

theorem prints_line (place : Place) (text : String) :
    Prints place (place.line text) [.line text] := by
  rintro sink rfl
  rw [run_singleton, Step.run, Sink.line_eq_raw]

theorem prints_ofDoc (place : Place) (documentation : Option String) :
    (ofDoc documentation).Prints place (place.documentation documentation) := by
  cases documentation with
  | none => exact prints_nil place
  | some text =>
      rintro sink rfl
      rw [ofDoc, run_singleton, Step.run, Sink.doc_eq_raw]

theorem prints_ofLines (place : Place) (texts : List String) :
    (ofLines texts).Prints place (String.join (texts.map place.line)) := by
  induction texts with
  | nil => exact prints_nil place
  | cons first rest inductionHypothesis =>
      rw [List.map_cons, String.join_cons]
      exact (prints_line place first).append inductionHypothesis

/-- A label stands one level further out than the lines around it. -/
theorem prints_label (place : Place) (text : String) :
    Prints place.inner (place.line (text ++ ":")) [.label text] := by
  intro sink inside
  obtain ⟨style, level, written⟩ := sink
  cases inside
  rw [run_singleton, Step.run]
  exact congrArg (·, none) (Sink.label_eq_raw ⟨place.style, place.level, written⟩ text)

/-- A script that restores its level adds its text and nothing else, also if it fails. -/
theorem Restores.run_eq (restores : script.Restores place.level) {sink : Sink}
    (inPlace : sink.place = place) :
    (Script.run script sink).1 = sink.raw (script.textAt place.sink) := by
  subst inPlace
  have text := text_run script sink
  have style := style_run script sink
  have level := restores sink rfl
  have samePlace : script.textAt sink.place.sink = script.textAt sink :=
    textAt_eq_of_place script rfl rfl
  rw [samePlace]
  cases ended : Script.run script sink with
  | mk behind failure =>
      rw [ended] at text style level
      obtain ⟨behindStyle, behindLevel, behindText⟩ := behind
      cases text
      cases style
      cases level
      rfl

/-- A block closes whatever happens inside, so it does not matter whether the inside fails. -/
theorem prints_block {content : Script} (header closing : String)
    (adds : ∀ sink : Sink, sink.place = place.inner → (Script.run content sink).1 = sink.raw text) :
    Prints place (place.block header closing text) [.block header closing content] := by
  rintro sink rfl
  have inside := adds (sink.raw (sink.place.opening header)).indent rfl
  rw [run_singleton, Step.run, Sink.openBlock_eq_raw, inside, Sink.closeBlock_eq_raw,
    Sink.raw_raw, Sink.raw_raw, ← String.append_assoc]
  rfl

theorem prints_documented_line (place : Place) (documentation : Option String) (text : String) :
    Prints place (place.documentation documentation ++ place.line text)
      (ofDoc documentation ++ [.line text]) :=
  (prints_ofDoc place documentation).append (prints_line place text)

theorem prints_documented_block {content : Script} (documentation : Option String)
    (header closing : String)
    (adds : ∀ sink : Sink, sink.place = place.inner → (Script.run content sink).1 = sink.raw text) :
    Prints place (place.documentation documentation ++ place.block header closing text)
      (ofDoc documentation ++ [.block header closing content]) :=
  (prints_ofDoc place documentation).append (prints_block header closing adds)

/-- A fork leaves the level of the sink alone, and so no more than the text is left of what
is printed on it. -/
theorem Prints.fork (prints : script.Prints place text) :
    Prints place text [.fork script true] := by
  intro sink inPlace
  rw [run_singleton, Step.run, prints sink.fork inPlace]
  simp [Sink.append, Sink.raw, Sink.fork]

end Script

end CppModel
