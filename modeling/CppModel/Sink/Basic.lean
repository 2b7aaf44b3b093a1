import CppModel.Sink.Style

/-!
# Sinks

A sink collects the text of generated code.  It only ever grows: each operation
writes behind what is already there and moves the level of nesting, and the
level decides what stands in front of the next line.

A fork is an empty sink in the same place.  Text that must appear as a whole or
not at all is written to a fork and appended when it is complete.
-/

namespace CppModel

/-- Text under construction, with the level at which the next line goes. -/
structure Sink where
  style : Style
  level : Nat
  text : String
  deriving DecidableEq, Repr

namespace Sink

/-- A sink with nothing written, at the outermost level. -/
def empty (style : Style) : Sink := ⟨style, 0, ""⟩

instance : Inhabited Sink := ⟨empty default⟩

/-- Whether nothing has been written. -/
def isEmpty (sink : Sink) : Bool := sink.text.isEmpty

/-- What stands in front of a line at the current level. -/
def margin (sink : Sink) : String := String.ofList (sink.style.margin sink.level)

/-- Write text as it is. -/
def raw (sink : Sink) (text : String) : Sink := { sink with text := sink.text ++ text }

/-- Write a line at the current level.  An empty line keeps its margin. -/
def line (sink : Sink) (text : String) : Sink :=
  (((sink.raw sink.margin).raw text).raw "\n")

/-- Write a line without a margin and without text. -/
def blank (sink : Sink) : Sink := sink.raw "\n"

/-- Go one level in. -/
def indent (sink : Sink) : Sink := { sink with level := sink.level + 1 }

/-- Go one level out; the outermost level is kept. -/
def dedent (sink : Sink) : Sink := { sink with level := sink.level - 1 }

/-- Write a label such as `public:` one level further out than a line, where it
stands in line with the braces of the enclosing block. -/
def label (sink : Sink) (text : String) : Sink :=
  (((sink.raw sink.dedent.margin).raw text).raw ":\n")

/-- Write the header and the opening brace of a block and go one level in.  A
block without a header has only its brace. -/
def openBlock (sink : Sink) (header : String) : Sink :=
  match sink.style.braces with
  | .nextLine => ((if header.isEmpty then sink else sink.line header).line "\x7b").indent
  | .sameLine => (sink.line (if header.isEmpty then "\x7b" else header ++ " \x7b")).indent

/-- Go one level out and write the closing brace of a block. -/
def closeBlock (sink : Sink) (closing : String) : Sink :=
  sink.dedent.line ("\x7d" ++ closing)

/-- An empty sink of the same style at the same level. -/
def fork (sink : Sink) : Sink := { sink with text := "" }

/-- Write what a fork has collected.  The level of the fork is forgotten. -/
def append (sink fork : Sink) : Sink := sink.raw fork.text

@[simp]
theorem text_raw (sink : Sink) (text : String) : (sink.raw text).text = sink.text ++ text :=
  rfl

@[simp]
theorem level_raw (sink : Sink) (text : String) : (sink.raw text).level = sink.level :=
  rfl

@[simp]
theorem style_raw (sink : Sink) (text : String) : (sink.raw text).style = sink.style :=
  rfl

@[simp]
theorem level_line (sink : Sink) (text : String) : (sink.line text).level = sink.level :=
  rfl

@[simp]
theorem style_line (sink : Sink) (text : String) : (sink.line text).style = sink.style :=
  rfl

@[simp]
theorem text_line (sink : Sink) (text : String) :
    (sink.line text).text = sink.text ++ sink.margin ++ text ++ "\n" :=
  rfl

@[simp]
theorem text_blank (sink : Sink) : sink.blank.text = sink.text ++ "\n" :=
  rfl

@[simp]
theorem text_append (sink fork : Sink) : (sink.append fork).text = sink.text ++ fork.text :=
  rfl

@[simp]
theorem level_append (sink fork : Sink) : (sink.append fork).level = sink.level :=
  rfl

/-- A block leaves the level where it was when its inside does. -/
theorem level_openBlock (sink : Sink) (header : String) :
    (sink.openBlock header).level = sink.level + 1 := by
  unfold openBlock
  cases sink.style.braces with
  | nextLine => by_cases empty : header.isEmpty <;> simp [empty, indent]
  | sameLine => rfl

@[simp]
theorem level_closeBlock (sink : Sink) (closing : String) :
    (sink.closeBlock closing).level = sink.level - 1 :=
  rfl

end Sink

end CppModel
