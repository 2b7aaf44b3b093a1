import CppModel.Proofs.Rendering.Shape
import Mathlib.Data.List.Forall2

/-!
# Procedures and renderings

A rendering is decided before anything is written, and a procedure writes as it goes.
A procedure carries out a rendering if it does the same to every sink.  It follows a
rendering if it does the same unless there is an error, and reports the same error.

Writing to a fork makes a procedure that only follows a rendering one that carries it
out: what was written before an error is thrown away with the fork.
-/

namespace CppModel

namespace Process

variable {State Result Next : Type}

theorem runOn_bind (process : Process State Result) (next : Result → Process State Next)
    (state : State) :
    (process >>= next).runOn state =
      match process.runOn state with
      | (behind, .ok result) => (next result).runOn behind
      | (behind, .error error) => (behind, .error error) := by
  simp only [runOn, ExceptT.run_bind, StateT.run_bind]
  cases (ExceptT.run process).run state with
  | mk outcome behind =>
      cases outcome with
      | ok result => rfl
      | error error => rfl

variable {process : Process State Result} {next : Result → Process State Next}
  {state behind : State}

/-- A step that ends without an error is followed by the rest. -/
theorem runOn_bind_ok {result : Result} (ended : process.runOn state = (behind, .ok result)) :
    (process >>= next).runOn state = (next result).runOn behind := by
  rw [runOn_bind, ended]

/-- An error ends the whole. -/
theorem runOn_bind_error {error : Error} (ended : process.runOn state = (behind, .error error)) :
    (process >>= next).runOn state = (behind, .error error) := by
  rw [runOn_bind, ended]

end Process

namespace Rendering

/-- One rendering after another. -/
def append (first second : Rendering) : Rendering := do
  let front ← first
  let back ← second
  pure (front ++ back)

/-- All renderings of a list in a row. -/
def inRow (renderings : List Rendering) : Rendering :=
  (all renderings).map List.flatten

theorem inRow_cons (first : Rendering) (rest : List Rendering) :
    inRow (first :: rest) = first.append (inRow rest) := by
  unfold inRow
  cases first with
  | error error => rfl
  | ok script =>
      cases restAll : all rest with
      | error error => simp [all, restAll, append, bind, Except.bind, Except.map]
      | ok scripts =>
          simp [all, restAll, append, bind, Except.bind, Except.map, pure, Except.pure]

theorem append_assoc (first second third : Rendering) :
    (first.append second).append third = first.append (second.append third) := by
  cases first <;> cases second <;> cases third <;>
    simp [append, bind, Except.bind, pure, Except.pure]

theorem inRow_append (first second : List Rendering) :
    inRow (first ++ second) = (inRow first).append (inRow second) := by
  induction first with
  | nil => cases restAll : inRow second <;> simp [restAll] <;> rfl
  | cons rendering rest inductionHypothesis =>
      rw [List.cons_append, inRow_cons, inRow_cons, inductionHypothesis, append_assoc]

theorem total_append {first second : Rendering} (firstTotal : first.Total)
    (secondTotal : second.Total) : (first.append second).Total := by
  intro script equal
  rcases (bind_eq_ok_iff _ _ _).mp equal with ⟨front, firstEq, rest⟩
  rcases (bind_eq_ok_iff _ _ _).mp rest with ⟨back, secondEq, whole⟩
  cases whole
  exact (firstTotal front firstEq).append (secondTotal back secondEq)

theorem total_inRow {renderings : List Rendering}
    (total : ∀ rendering ∈ renderings, rendering.Total) : (inRow renderings).Total := by
  induction renderings with
  | nil => exact total_ok Script.total_nil
  | cons first rest inductionHypothesis =>
      rw [inRow_cons]
      exact total_append (total first List.mem_cons_self)
        (inductionHypothesis fun other member => total other (List.mem_cons_of_mem _ member))

end Rendering

namespace Procedure

open Process

variable {Result : Type}

theorem runOn_document (documentation : Option String) (sink : Sink) :
    (document documentation).runOn sink =
      ((Script.run (Script.ofDoc documentation) sink).1, .ok ()) := by
  cases documentation with
  | none => rw [Script.ofDoc, Script.run_nil]; rfl
  | some text => rw [Script.ofDoc, Script.run_singleton, Step.run]; rfl

theorem runOn_block (header closing : String) (body : Script) (sink : Sink) :
    (block header closing body).runOn sink =
      ((Script.run [.block header closing body] sink).1, .ok ()) := by
  rw [Script.run_singleton, Step.run]
  rfl

/-! ## Procedures and renderings -/

/-- The procedure does to every sink what writing the rendering does. -/
def CarriesOut (procedure : Procedure Unit) (rendering : Rendering) : Prop :=
  ∀ sink, procedure.runOn sink = sink.write rendering

/-- The procedure writes what the rendering says, or ends in the same error.  It may
have written a part before an error. -/
def Follows (procedure : Procedure Unit) : Rendering → Prop
  | .ok script => ∀ sink, procedure.runOn sink = ((Script.run script sink).1, .ok ())
  | .error error => ∀ sink, (procedure.runOn sink).2 = .error error

theorem CarriesOut.follows {procedure : Procedure Unit} {rendering : Rendering}
    (carriesOut : CarriesOut procedure rendering) : Follows procedure rendering := by
  cases rendering with
  | ok script => exact carriesOut
  | error error =>
      intro sink
      rw [carriesOut sink]
      rfl

theorem carriesOut_nothing : CarriesOut (pure ()) (pure []) := by
  intro sink
  change _ = ((Script.run [] sink).1, _)
  rw [Script.run_nil]
  rfl

theorem carriesOut_document (documentation : Option String) :
    CarriesOut (document documentation) (.ok (Script.ofDoc documentation)) :=
  fun sink => runOn_document documentation sink

theorem carriesOut_error (error : Error) : CarriesOut (throw error) (.error error) :=
  fun _ => rfl

/-- A check in front of a procedure is a check in front of its rendering. -/
theorem carriesOut_require (outcome : Except Error Result) {next : Result → Procedure Unit}
    {rendering : Result → Rendering}
    (passed : ∀ result, CarriesOut (next result) (rendering result)) :
    CarriesOut (require outcome >>= next) (outcome >>= rendering) := by
  intro sink
  cases outcome with
  | error error => rfl
  | ok result => exact passed result sink

theorem carriesOut_ite (condition : Prop) [Decidable condition]
    {first second : Procedure Unit} {firstRendering secondRendering : Rendering}
    (firstCarriesOut : CarriesOut first firstRendering)
    (secondCarriesOut : CarriesOut second secondRendering) :
    CarriesOut (if condition then first else second)
      (if condition then firstRendering else secondRendering) := by
  by_cases holds : condition
  · rw [if_pos holds, if_pos holds]
    exact firstCarriesOut
  · rw [if_neg holds, if_neg holds]
    exact secondCarriesOut

/-- A script that is nothing but documentation and one step. -/
theorem carriesOut_documented {documentation : Option String} {step : Step}
    {procedure : Procedure Unit}
    (carriesOut : ∀ sink, procedure.runOn sink = ((Script.run [step] sink).1, .ok ())) :
    CarriesOut (do document documentation; procedure)
      (pure (Script.ofDoc documentation ++ [step])) := by
  intro sink
  rw [runOn_bind_ok (runOn_document documentation sink), carriesOut]
  change _ = ((Script.run (Script.ofDoc documentation ++ [step]) sink).1, _)
  rw [(Script.total_ofDoc documentation).run_append]

theorem carriesOut_line (documentation : Option String) (text : String) :
    CarriesOut (do document documentation; change (·.line text))
      (pure (Script.ofDoc documentation ++ [.line text])) := by
  apply carriesOut_documented
  intro sink
  rw [Script.run_singleton, Step.run, runOn_change]

theorem carriesOut_block (documentation : Option String) (header closing : String)
    (body : Script) :
    CarriesOut (do document documentation; block header closing body)
      (pure (Script.ofDoc documentation ++ [.block header closing body])) :=
  carriesOut_documented fun sink => runOn_block header closing body sink

/-- One procedure after another follows one rendering after another. -/
theorem follows_append {first second : Procedure Unit} {front back : Rendering}
    (firstFollows : Follows first front) (secondFollows : Follows second back)
    (total : front.Total) :
    Follows (do first; second) (front.append back) := by
  cases front with
  | error error =>
      intro sink
      rw [runOn_bind_error (Prod.ext rfl (firstFollows sink))]
  | ok script =>
      have scriptTotal := total script rfl
      cases back with
      | error error =>
          intro sink
          rw [runOn_bind_ok (firstFollows sink)]
          exact secondFollows _
      | ok rest =>
          intro sink
          rw [runOn_bind_ok (firstFollows sink), scriptTotal.run_append]
          exact secondFollows _

/-- Procedures that follow renderings one by one follow all of them in a row. -/
theorem follows_each {procedures : List (Procedure Unit)} {renderings : List Rendering}
    (follows : List.Forall₂ Follows procedures renderings)
    (total : ∀ rendering ∈ renderings, rendering.Total) :
    Follows (each procedures) (Rendering.inRow renderings) := by
  induction follows with
  | nil => exact carriesOut_nothing.follows
  | @cons first rendering procedures renderings firstFollows restFollow inductionHypothesis =>
      rw [Rendering.inRow_cons]
      have restTotal : ∀ other ∈ renderings, other.Total :=
        fun other member => total other (List.mem_cons_of_mem _ member)
      exact follows_append firstFollows (inductionHypothesis restTotal)
        (total rendering List.mem_cons_self)

/-- A list of items is written as it is rendered if each of them is. -/
theorem forall₂_map {Item : Type} {relation : Procedure Unit → Rendering → Prop}
    {write : Item → Procedure Unit} {render : Item → Rendering}
    (related : ∀ item, relation (write item) (render item)) (items : List Item) :
    List.Forall₂ relation (items.map write) (items.map render) := by
  induction items with
  | nil => exact .nil
  | cons first rest inductionHypothesis => exact .cons (related first) inductionHypothesis

/-- A guarded block around a procedure follows a block around its rendering: where the
two differ, inside an error, nothing is asked of the text. -/
theorem follows_tryBlock (header closing : String) {inside : Procedure Unit}
    {rendering : Rendering} (follows : Follows inside rendering) :
    Follows (tryBlock header closing inside)
      (rendering.map fun body => [.block header closing body]) := by
  cases rendering with
  | error error =>
      intro sink
      rw [tryBlock, runOn_bind_ok (runOn_change _ sink),
        runOn_bind_error (Prod.ext rfl (follows (sink.openBlock header)))]
  | ok body =>
      intro sink
      rw [tryBlock, runOn_bind_ok (runOn_change _ sink),
        runOn_bind_ok (follows (sink.openBlock header)), Script.run_singleton, Step.run,
        runOn_change]

/-- On a fork, what was written before an error is not seen. -/
theorem carriesOut_whole {procedure : Procedure Unit} {rendering : Rendering}
    (follows : Follows procedure rendering)
    (total : rendering.Total) :
    CarriesOut (whole procedure) (rendering.map fun script => [.fork script true]) := by
  intro sink
  rw [whole, runOn_bind_ok (runOn_get sink)]
  rw [onFork]
  cases rendering with
  | error error =>
      have stops := follows sink.fork
      cases ended : procedure.runOn sink.fork with
      | mk written outcome =>
          rw [ended] at stops
          cases stops
          rfl
  | ok script =>
      rw [follows sink.fork]
      change _ = ((Script.run [.fork script true] sink).1, _)
      rw [Script.run_singleton, Script.run_fork (total script rfl)]
      rfl

end Procedure

end CppModel
