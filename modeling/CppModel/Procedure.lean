import CppModel.Rendering

/-!
# Procedures

A procedure writes as it goes: it changes a sink step by step, and an error ends it in
the middle of what it was writing.  Nothing is taken back on its own.  A procedure that
must not leave a part of its text behind writes to a fork and appends the fork at its end.

A collector gathers chunks of text in the same manner.  Each chunk goes to a fork of its
own, and the chunks are joined when all of them are complete.
-/

namespace CppModel

/-- Changing a state step by step.  After an error the state is as it was when the
error occurred. -/
abbrev Process (State : Type) : Type → Type := ExceptT Error (StateM State)

/-- Writing to a sink step by step. -/
abbrev Procedure : Type → Type := Process Sink

/-- Collecting chunks of text. -/
abbrev Collector : Type → Type := Process (List String)

namespace Process

variable {State Result : Type}

/-- The state behind a process, and how the process ended. -/
def runOn (process : Process State Result) (state : State) : State × Except Error Result :=
  let (outcome, next) := (ExceptT.run process).run state
  (next, outcome)

@[simp]
theorem runOn_pure (result : Result) (state : State) :
    runOn (pure result : Process State Result) state = (state, .ok result) :=
  rfl

@[simp]
theorem runOn_throw (error : Error) (state : State) :
    runOn (throw error : Process State Result) state = (state, .error error) :=
  rfl

@[simp]
theorem runOn_modify (operation : State → State) (state : State) :
    runOn (modify operation : Process State Unit) state = (operation state, .ok ()) :=
  rfl

@[simp]
theorem runOn_get (state : State) : runOn (get : Process State State) state = (state, .ok state) :=
  rfl

end Process

namespace Procedure

open Process

/-- Change the sink. -/
def change (operation : Sink → Sink) : Procedure Unit :=
  modify operation

/-- Go on only if a check is passed. -/
def require {Result : Type} (outcome : Except Error Result) : Procedure Result :=
  ExceptT.mk (pure outcome)

/-- Write documentation, if there is any. -/
def document : Option String → Procedure Unit
  | some text => change (·.doc text)
  | none => pure ()

/-- Write a block around a script. -/
def block (header closing : String) (body : Script) : Procedure Unit := do
  change (·.openBlock header)
  change fun sink => (Script.run body sink).1
  change (·.closeBlock closing)

/-- Write a block around a procedure.  The block stays open if the inside ends in an
error. -/
def tryBlock (header closing : String) (inside : Procedure Unit) : Procedure Unit := do
  change (·.openBlock header)
  inside
  change (·.closeBlock closing)

/-- Carry out a procedure on a fork of the given sink. -/
def onFork (sink : Sink) (procedure : Procedure Unit) : Procedure Sink :=
  match procedure.runOn sink.fork with
  | (written, .ok ()) => pure written
  | (_, .error error) => throw error

/-- Carry out a procedure on a fork, and append the fork when it is complete. -/
def whole (procedure : Procedure Unit) : Procedure Unit := do
  let sink ← get
  let written ← onFork sink procedure
  change (·.append written)

/-- Carry out procedures one after another. -/
def each : List (Procedure Unit) → Procedure Unit
  | [] => pure ()
  | first :: rest => do
      first
      each rest

@[simp]
theorem runOn_change (operation : Sink → Sink) (sink : Sink) :
    (change operation).runOn sink = (operation sink, .ok ()) :=
  rfl

end Procedure

namespace Collector

open Process

/-- Write one chunk to a fork of the template.  An empty chunk is left out. -/
def collect (template : Sink) (procedure : Procedure Unit) : Collector Unit :=
  match procedure.runOn template.fork with
  | (chunk, .ok ()) => modify fun chunks => if chunk.isEmpty then chunks else chunks ++ [chunk.text]
  | (_, .error error) => throw error

/-- Write chunks one after another. -/
def collectEach (template : Sink) : List (Procedure Unit) → Collector Unit
  | [] => pure ()
  | first :: rest => do
      collect template first
      collectEach template rest

/-- Put chunks behind a text, each but the first of them behind a blank line. -/
def join (joined : Sink) : Nat → List String → Sink
  | _, [] => joined
  | index, chunk :: rest =>
      join ((if index > 0 then joined.blank else joined).raw chunk) (index + 1) rest

end Collector

end CppModel
