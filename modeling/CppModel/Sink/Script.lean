import CppModel.Sink.Documentation

/-!
# Scripts

A script is what is to be written, as data: a list of steps that a sink carries
out.  The bodies of functions are scripts, and so is the text of every
generated element, so one induction on scripts speaks about all of them.

A step may fail, which ends the list of steps it stands in.  A block forgets
the failure of its inside and closes; a guarded block passes the failure on and
stays open; a fork passes the failure on and leaves no text.
-/

namespace CppModel

/-- One step of writing. -/
inductive Step
  | line (text : String)
  | blank
  | raw (text : String)
  | indent
  | dedent
  | label (text : String)
  | doc (text : String)
  /-- A braced block that closes whatever happens inside. -/
  | block (header closing : String) (body : List Step)
  /-- A braced block that stays open when its inside fails. -/
  | guarded (header closing : String) (body : List Step)
  /-- End the enclosing list of steps. -/
  | fail (reason : String)
  /-- Write to a fork, and append it if `keep` is set. -/
  | fork (body : List Step) (keep : Bool)

instance : Inhabited Step := ⟨.blank⟩

/-- A list of steps, carried out one after another. -/
abbrev Script := List Step

mutual

/-- Carry out one step.  The second component is the reason of a failure. -/
def Step.run : Step → Sink → Sink × Option String
  | .line text, sink => (sink.line text, none)
  | .blank, sink => (sink.blank, none)
  | .raw text, sink => (sink.raw text, none)
  | .indent, sink => (sink.indent, none)
  | .dedent, sink => (sink.dedent, none)
  | .label text, sink => (sink.label text, none)
  | .doc text, sink => (sink.doc text, none)
  | .block header closing body, sink =>
      ((Script.run body (sink.openBlock header)).1.closeBlock closing, none)
  | .guarded header closing body, sink =>
      match Script.run body (sink.openBlock header) with
      | (inside, none) => (inside.closeBlock closing, none)
      | (inside, some reason) => (inside, some reason)
  | .fail reason, sink => (sink, some reason)
  | .fork body keep, sink =>
      match Script.run body sink.fork with
      | (inside, none) => (if keep then sink.append inside else sink, none)
      | (_, some reason) => (sink, some reason)

/-- Carry out a script up to its first failure. -/
def Script.run : List Step → Sink → Sink × Option String
  | [], sink => (sink, none)
  | step :: rest, sink =>
      match Step.run step sink with
      | (next, none) => Script.run rest next
      | (next, some reason) => (next, some reason)

end

namespace Script

/-- A script of plain lines. -/
def ofLines (texts : List String) : Script :=
  texts.map Step.line

/-- Documentation, if there is any. -/
def ofDoc : Option String → Script
  | some text => [.doc text]
  | none => []

/-- Scripts one after another with a blank line between them.  Empty scripts
are left out, and each of the others starts at the same level. -/
def paragraphs (scripts : List Script) : Script :=
  [Step.blank].intercalate
    ((scripts.filter (! ·.isEmpty)).map fun script => [Step.fork script true])

/-- The text that a script writes in the place of the given sink. -/
def textAt (sink : Sink) (script : Script) : String :=
  (Script.run script sink.fork).1.text

@[simp]
theorem run_nil (sink : Sink) : Script.run [] sink = (sink, none) := by
  simp [Script.run]

theorem run_cons (step : Step) (rest : Script) (sink : Sink) :
    Script.run (step :: rest) sink =
      match Step.run step sink with
      | (next, none) => Script.run rest next
      | (next, some reason) => (next, some reason) := by
  rw [Script.run]

/-- Two scripts in a row: the second one starts where the first one ended, if
the first one did not fail. -/
theorem run_append (first second : Script) (sink : Sink) :
    Script.run (first ++ second) sink =
      match Script.run first sink with
      | (next, none) => Script.run second next
      | (next, some reason) => (next, some reason) := by
  induction first generalizing sink with
  | nil => simp
  | cons step rest inductionHypothesis =>
      rw [List.cons_append, run_cons, run_cons]
      cases Step.run step sink with
      | mk next failure =>
          cases failure with
          | none => exact inductionHypothesis next
          | some reason => rfl

end Script

end CppModel
