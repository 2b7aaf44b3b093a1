import CppModel.Proofs.Sink.Locality

/-!
# Runs that keep a record

A script can be carried out such that everything that it writes is recorded, together
with the sink that it is written to.  Apart from the record this is the run of the script:
it ends in the same sink and with the same failure.  The text of the sink has become
longer by the texts of the record, one behind the other, so that nothing is written that
is not on record.

A block that closes with nothing behind its brace is that of a function, and the run of
what is inside is on record as one piece.  A block of a class or of an enumeration closes
with a semicolon; its two braces are recorded, and what is inside between them.
-/

namespace CppModel

/-- Something that a script writes. -/
inductive Piece
  | line (text : String)
  | raw (text : String)
  | label (text : String)
  | doc (text : String)
  | blank
  /-- The header and the opening brace of a class or an enumeration. -/
  | opening (header : String)
  /-- The closing brace of a class or an enumeration. -/
  | closing (text : String)
  /-- One run of the body of a function, between braces under its header. -/
  | body (header : String) (content : Script)
  /-- A fork has been thrown away, with all that was written to it. -/
  | discarded

/-- Write a piece.  A body is carried out, whatever it does. -/
def Piece.write : Piece → Sink → Sink
  | .line text, sink => sink.line text
  | .raw text, sink => sink.raw text
  | .label text, sink => sink.label text
  | .doc text, sink => sink.doc text
  | .blank, sink => sink.blank
  | .opening header, sink => sink.openBlock header
  | .closing text, sink => sink.closeBlock text
  | .body header content, sink =>
      (Script.run content (sink.openBlock header)).1.closeBlock ""
  | .discarded, sink => sink

/-- A piece that has been written, and the sink as it was before. -/
structure Entry where
  piece : Piece
  place : Sink

/-- The text that an entry adds. -/
def Entry.text (entry : Entry) : String :=
  (entry.piece.write entry.place.fork).text

/-- What a run with a record comes to. -/
structure Trace where
  sink : Sink
  /-- The reason for which the run has ended early. -/
  failure : Option String
  entries : List Entry

/-- The trace of writing one piece. -/
def Trace.written (piece : Piece) (sink : Sink) : Trace :=
  ⟨piece.write sink, none, [⟨piece, sink⟩]⟩

mutual

/-- Carry out one step and keep a record. -/
def Step.trace : Step → Sink → Trace
  | .line text, sink => .written (.line text) sink
  | .blank, sink => .written .blank sink
  | .raw text, sink => .written (.raw text) sink
  | .indent, sink => ⟨sink.indent, none, []⟩
  | .dedent, sink => ⟨sink.dedent, none, []⟩
  | .label text, sink => .written (.label text) sink
  | .doc text, sink => .written (.doc text) sink
  | .block header closing content, sink =>
      if closing.isEmpty then .written (.body header content) sink
      else
        let inside := Script.trace content (sink.openBlock header)
        ⟨inside.sink.closeBlock closing, none,
          ⟨.opening header, sink⟩ :: inside.entries ++ [⟨.closing closing, inside.sink⟩]⟩
  | .guarded header closing content, sink =>
      match Script.trace content (sink.openBlock header) with
      | ⟨inside, none, entries⟩ =>
          ⟨inside.closeBlock closing, none,
            ⟨.opening header, sink⟩ :: entries ++ [⟨.closing closing, inside⟩]⟩
      | ⟨inside, some reason, entries⟩ =>
          ⟨inside, some reason, ⟨.opening header, sink⟩ :: entries⟩
  | .fail reason, sink => ⟨sink, some reason, []⟩
  | .fork content keep, sink =>
      match Script.trace content sink.fork with
      | ⟨inside, none, entries⟩ =>
          if keep then ⟨sink.append inside, none, entries⟩
          else ⟨sink, none, [⟨.discarded, sink⟩]⟩
      | ⟨_, some reason, _⟩ => ⟨sink, some reason, [⟨.discarded, sink⟩]⟩

/-- Carry out a script up to its first failure and keep a record. -/
def Script.trace : List Step → Sink → Trace
  | [], sink => ⟨sink, none, []⟩
  | step :: rest, sink =>
      match Step.trace step sink with
      | ⟨next, none, entries⟩ =>
          let behind := Script.trace rest next
          { behind with entries := entries ++ behind.entries }
      | ⟨next, some reason, entries⟩ => ⟨next, some reason, entries⟩

end

/-! ## The run without the record -/

mutual

/-- The record changes nothing about the step. -/
theorem Step.run_eq_trace :
    (step : Step) → (sink : Sink) →
      Step.run step sink = ((Step.trace step sink).sink, (Step.trace step sink).failure)
  | .line text, sink => rfl
  | .blank, sink => rfl
  | .raw text, sink => rfl
  | .indent, sink => rfl
  | .dedent, sink => rfl
  | .label text, sink => rfl
  | .doc text, sink => rfl
  | .block header closing content, sink => by
      have inside := Script.run_eq_trace content (sink.openBlock header)
      by_cases isFunction : closing.isEmpty
      · have noClosing : closing = "" := String.isEmpty_iff.mp isFunction
        rw [Step.run, Step.trace, if_pos isFunction, noClosing]
        rfl
      · rw [Step.run, Step.trace, if_neg isFunction, inside]
  | .guarded header closing content, sink => by
      have inside := Script.run_eq_trace content (sink.openBlock header)
      rw [Step.run, Step.trace, inside]
      rcases Script.trace content (sink.openBlock header) with ⟨next, _ | reason, entries⟩ <;> rfl
  | .fail reason, sink => rfl
  | .fork content keep, sink => by
      have inside := Script.run_eq_trace content sink.fork
      rw [Step.run, Step.trace, inside]
      rcases Script.trace content sink.fork with ⟨next, _ | reason, entries⟩
      · cases keep <;> rfl
      · rfl

/-- The record changes nothing about the script. -/
theorem Script.run_eq_trace :
    (script : List Step) → (sink : Sink) →
      Script.run script sink = ((Script.trace script sink).sink, (Script.trace script sink).failure)
  | [], sink => rfl
  | step :: rest, sink => by
      have first := Step.run_eq_trace step sink
      rw [Script.run, Script.trace, first]
      rcases Step.trace step sink with ⟨next, _ | reason, entries⟩
      · exact Script.run_eq_trace rest next
      · rfl

end

namespace Script

theorem trace_singleton (step : Step) (sink : Sink) : trace [step] sink = step.trace sink := by
  rw [trace]
  rcases step.trace sink with ⟨next, _ | reason, entries⟩
  · exact congrArg (Trace.mk next none) (List.append_nil entries)
  · rfl

/-- Two scripts in a row: the record of the second one follows, if the first one did not
fail. -/
theorem trace_append (first second : Script) (sink : Sink) :
    trace (first ++ second) sink =
      match trace first sink with
      | ⟨next, none, entries⟩ =>
          ⟨(trace second next).sink, (trace second next).failure,
            entries ++ (trace second next).entries⟩
      | ⟨next, some reason, entries⟩ => ⟨next, some reason, entries⟩ := by
  induction first generalizing sink with
  | nil => rfl
  | cons step rest inductionHypothesis =>
      rw [List.cons_append, trace, trace]
      rcases step.trace sink with ⟨next, _ | reason, entries⟩
      · simp only [inductionHypothesis]
        rcases trace rest next with ⟨last, _ | reason, others⟩
        · simp only [List.append_assoc]
        · rfl
      · rfl

end Script

/-! ## The text of the record -/

/-- A piece adds the same text to every sink in the same place. -/
theorem Piece.text_write (piece : Piece) (sink : Sink) :
    (piece.write sink).text = sink.text ++ Entry.text ⟨piece, sink⟩ := by
  have isLocal : piece.write (sink.fork.behind sink.text) =
      (piece.write sink.fork).behind sink.text := by
    cases piece with
    | line text => exact Sink.behind_line _ _ _
    | raw text => exact Sink.behind_raw _ _ _
    | label text => exact Sink.behind_label _ _ _
    | doc text => exact Sink.behind_doc _ _ _
    | blank => exact Sink.behind_raw _ _ _
    | opening header => exact Sink.behind_openBlock _ _ _
    | closing text => exact Sink.behind_closeBlock _ _ _
    | body header content =>
        simp only [write, Sink.behind_openBlock, Script.run_behind, Sink.behind_closeBlock]
    | discarded => rfl
  rw [Sink.behind_fork] at isLocal
  rw [isLocal]
  rfl

theorem Entry.text_line (text : String) (place : Sink) :
    Entry.text ⟨.line text, place⟩ = place.margin ++ text ++ "\n" := by
  change "" ++ place.margin ++ text ++ "\n" = _
  rw [String.empty_append]

/-- A body is written with all that its run writes, between the two braces. -/
theorem Entry.text_body (header : String) (content : Script) (place : Sink) :
    Entry.text ⟨.body header content, place⟩ =
      (place.fork.openBlock header).text ++ content.textAt (place.fork.openBlock header) ++
        (Script.run content (place.fork.openBlock header)).1.dedent.margin ++ "\x7d\n" := by
  have inside := Script.text_run content (place.fork.openBlock header)
  have brace : "\x7d\n" = "\x7d" ++ "\n" := rfl
  rw [← inside, brace, ← String.append_assoc]
  rfl

namespace Trace

/-- The text of the sink is the text that was there, and then the texts of the entries. -/
def Accounts (trace : Trace) (before : Sink) : Prop :=
  trace.sink.text = before.text ++ String.join (trace.entries.map (·.text))

theorem accounts_nil (sink : Sink) (failure : Option String) :
    Accounts ⟨sink, failure, []⟩ sink := by
  simp [Accounts]

theorem accounts_written (piece : Piece) (sink : Sink) : (written piece sink).Accounts sink := by
  rw [Accounts, written, piece.text_write]
  simp

/-- What is written behind a record is accounted for if both are. -/
theorem Accounts.append {next last before : Sink} {first second : List Entry}
    {failure other : Option String} (accounts : Accounts ⟨next, failure, first⟩ before)
    (behind : Accounts ⟨last, other, second⟩ next) :
    Accounts ⟨last, other, first ++ second⟩ before := by
  have nextText : next.text = _ := accounts
  have lastText : last.text = _ := behind
  change last.text = _
  rw [lastText, nextText, List.map_append, String.join_append, String.append_assoc]

end Trace

open Trace in
mutual

theorem Step.accounts_trace :
    (step : Step) → (sink : Sink) → (Step.trace step sink).Accounts sink
  | .line text, sink => accounts_written _ sink
  | .blank, sink => accounts_written _ sink
  | .raw text, sink => accounts_written _ sink
  | .indent, sink => accounts_nil _ _
  | .dedent, sink => accounts_nil _ _
  | .label text, sink => accounts_written _ sink
  | .doc text, sink => accounts_written _ sink
  | .block header closing content, sink => by
      rw [Step.trace]
      split
      · exact accounts_written _ sink
      · have opened := accounts_written (.opening header) sink
        have inside := opened.append (Script.accounts_trace content (sink.openBlock header))
        exact inside.append (accounts_written (.closing closing) _)
  | .guarded header closing content, sink => by
      have opened := accounts_written (.opening header) sink
      have inside := opened.append (Script.accounts_trace content (sink.openBlock header))
      rw [Step.trace]
      generalize Script.trace content (sink.openBlock header) = whole at inside ⊢
      rcases whole with ⟨next, _ | reason, entries⟩
      · exact inside.append (accounts_written (.closing closing) next)
      · exact inside
  | .fail reason, sink => accounts_nil _ _
  | .fork content keep, sink => by
      have nothing := accounts_written .discarded sink
      have inside := Script.accounts_trace content sink.fork
      rw [Step.trace]
      generalize Script.trace content sink.fork = whole at inside ⊢
      rcases whole with ⟨next, _ | reason, entries⟩
      · cases keep with
        | false => exact nothing
        | true =>
            have onFork : next.text = "" ++ String.join (entries.map (·.text)) := inside
            rw [String.empty_append] at onFork
            exact congrArg (sink.text ++ ·) onFork
      · exact nothing

/-- All that a script adds to the text is on record. -/
theorem Script.accounts_trace :
    (script : List Step) → (sink : Sink) → (Script.trace script sink).Accounts sink
  | [], sink => accounts_nil _ _
  | step :: rest, sink => by
      have first := Step.accounts_trace step sink
      rw [Script.trace]
      generalize Step.trace step sink = whole at first ⊢
      rcases whole with ⟨next, _ | reason, entries⟩
      · exact first.append (Script.accounts_trace rest next)
      · exact first

end

end CppModel
