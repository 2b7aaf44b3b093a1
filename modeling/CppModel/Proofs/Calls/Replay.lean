import CppModel.Proofs.Layout.Place
import CppModel.Proofs.Source.Entries
import Mathlib.Data.List.DropRight

/-!
# Initializers over time

The initializers of a constructor are the outcome of all calls that were made about them.  A
call adds one initializer behind the others, or brings a list that takes the place of all of
them: one that is known, or one that a producer gives whenever it is asked.  What counts in the
end is the last replacement and what was added since then.

Between the calls the state that the producers read may change.  Nothing is read before the
constructor is written, so a producer shows the state of that moment, however long ago it was
set and whatever was added behind it.
-/

namespace CppModel

open Procedure Process

/-! ## Calls -/

/-- What can be called for about the initializers of a constructor. -/
inductive InitializerCall
  | add (initializer : String)
  | replace (list : List String)
  | defer (producer : Nat)
  deriving DecidableEq, Repr

namespace InitializerCall

/-- What a call makes of a constructor. -/
def perform (constructor : Constructor) : InitializerCall → Constructor
  | add initializer => constructor.addInitializer initializer
  | replace list => constructor.withInitializers list
  | defer producer => constructor.withProducer producer

/-- The initializer that is added, if the call replaces nothing. -/
def added? : InitializerCall → Option String
  | add initializer => some initializer
  | _ => none

/-- The list that takes the place of the others, as it is while the producers give the given
lists. -/
def replacement? (produced : Nat → List String) : InitializerCall → Option (List String)
  | add _ => none
  | replace list => some list
  | defer producer => some (produced producer)

/-- The list of the last replacement, or the one at the start if there was none. -/
def base (produced : Nat → List String) (start : List String) (calls : List InitializerCall) :
    List String :=
  (calls.filterMap (replacement? produced)).getLast?.getD start

/-- What was added since the last replacement, in the order of the calls. -/
def addedSince (calls : List InitializerCall) : List String :=
  (calls.rtakeWhile (·.added?.isSome)).filterMap added?

variable {produced : Nat → List String} {start : List String}

theorem base_concat_add (calls : List InitializerCall) (initializer : String) :
    base produced start (calls ++ [add initializer]) = base produced start calls := by
  simp [base, replacement?]

theorem addedSince_concat_add (calls : List InitializerCall) (initializer : String) :
    addedSince (calls ++ [add initializer]) = addedSince calls ++ [initializer] := by
  rw [addedSince, List.rtakeWhile_concat_pos _ _ _ rfl, List.filterMap_append]
  rfl

theorem base_concat_of_replacement {call : InitializerCall} {list : List String}
    (calls : List InitializerCall) (brings : call.replacement? produced = some list) :
    base produced start (calls ++ [call]) = list := by
  simp [base, brings]

theorem addedSince_concat_of_replacement {call : InitializerCall}
    (calls : List InitializerCall) (addsNothing : call.added? = none) :
    addedSince (calls ++ [call]) = [] := by
  rw [addedSince, List.rtakeWhile_concat_neg, List.filterMap_nil]
  simp [addsNothing]

/-- The calls do not touch what a constructor has besides its initializers. -/
theorem toMethod_foldl_perform (constructor : Constructor) (calls : List InitializerCall) :
    (calls.foldl perform constructor).toMethod = constructor.toMethod := by
  induction calls generalizing constructor with
  | nil => rfl
  | cons call rest inductionHypothesis =>
      rw [List.foldl_cons, inductionHypothesis]
      cases call <;> rfl

/-- The initializers are those of the last replacement and what was added since. -/
theorem resolve_foldl_perform (context : Context) (constructor : Constructor)
    (calls : List InitializerCall) :
    (calls.foldl perform constructor).initializers.resolve context =
      base context.produced (constructor.initializers.resolve context) calls ++
        addedSince calls := by
  induction calls using List.reverseRecOn with
  | nil => simp [base, addedSince]
  | append_singleton earlier last inductionHypothesis =>
      rw [List.foldl_append, List.foldl_cons, List.foldl_nil]
      cases last with
      | add initializer =>
          rw [base_concat_add, addedSince_concat_add, ← List.append_assoc, ← inductionHypothesis]
          exact Initializers.resolve_push context _ initializer
      | replace list =>
          rw [base_concat_of_replacement earlier rfl, addedSince_concat_of_replacement earlier rfl,
            List.append_nil]
          rfl
      | defer producer =>
          rw [base_concat_of_replacement earlier rfl, addedSince_concat_of_replacement earlier rfl]
          rfl

end InitializerCall

/-! ## Producers around producers -/

/-- Initializers whose producer is put into another one for each initializer that is added. -/
inductive WrappedInitializers
  | known (list : List String)
  | deferred (produce : (Nat → List String) → List String)

namespace WrappedInitializers

/-- The same initializers with a producer around what has been added. -/
def ofInitializers : Initializers → WrappedInitializers
  | .known list => known list
  | .deferred producer added => deferred fun produced => produced producer ++ added

/-- The initializers while the producers give the given lists. -/
def resolve (produced : Nat → List String) : WrappedInitializers → List String
  | known list => list
  | deferred produce => produce produced

/-- What a call makes of wrapped initializers. -/
def perform : WrappedInitializers → InitializerCall → WrappedInitializers
  | known list, .add initializer => known (list ++ [initializer])
  | deferred produce, .add initializer =>
      deferred fun produced => produce produced ++ [initializer]
  | _, .replace list => known list
  | _, .defer producer => deferred fun produced => produced producer

/-- Wrapping keeps apart what is one list here, and gives the same. -/
theorem foldl_perform (constructor : Constructor) (calls : List InitializerCall) :
    calls.foldl perform (ofInitializers constructor.initializers) =
      ofInitializers (calls.foldl InitializerCall.perform constructor).initializers := by
  induction calls generalizing constructor with
  | nil => rfl
  | cons call rest inductionHypothesis =>
      rw [List.foldl_cons, List.foldl_cons, ← inductionHypothesis]
      congr 1
      rcases constructor with ⟨method, list | ⟨producer, added⟩⟩ <;> cases call <;>
        simp [perform, ofInitializers, InitializerCall.perform, Constructor.addInitializer,
          Initializers.push, Constructor.withInitializers, Constructor.withProducer]

theorem resolve_ofInitializers (context : Context) (initializers : Initializers) :
    (ofInitializers initializers).resolve context.produced = initializers.resolve context := by
  cases initializers <;> rfl

end WrappedInitializers

/-! ## Headers -/

/-- What stands behind the opening brace of a block: its inside, and the closing brace at the
level that the inside has left. -/
def Place.closed (place : Place) (content : Script) : String :=
  ((Script.run content place.inner.sink).1.closeBlock "").text

/-- A documented block shows its header, whatever happens inside. -/
theorem Script.text_documented_block (documentation : Option String) (header : String)
    (content : Script) (sink : Sink) :
    (run (ofDoc documentation ++ [.block header "" content]) sink).1.text =
      sink.text ++ sink.place.documentation documentation ++ sink.place.opening header ++
        sink.place.closed content := by
  have documented := prints_ofDoc sink.place documentation sink rfl
  have inside : ((sink.raw (sink.place.documentation documentation)).raw
      (sink.place.opening header)).indent =
        sink.place.inner.sink.behind
          (sink.text ++ sink.place.documentation documentation ++ sink.place.opening header) := by
    simp [Sink.behind, Sink.indent, Sink.raw, Sink.place, Place.inner, Place.sink]
  rw [(total_ofDoc documentation).run_append, documented, run_singleton, Step.run,
    Sink.openBlock_eq_raw, Sink.place_raw, inside, run_behind, Sink.behind_closeBlock]
  rfl

namespace Constructor

/-- The header of a constructor with a list of initializers: a colon stands in front of the
list, if there is anything in it. -/
def headerOver (name : String) (arguments list : List String) : String :=
  name ++ "(" ++ ", ".intercalate arguments ++ ")" ++
    if list = [] then "" else " : " ++ ", ".intercalate list

theorem headerAs_eq (context : Context) (constructor : Constructor) (name : String) :
    constructor.headerAs context name =
      headerOver name constructor.arguments (constructor.initializers.resolve context) := by
  rw [headerAs, headerOver, Initializers.clause, Declarator.signature]
  cases constructor.initializers.resolve context with
  | nil => rfl
  | cons first rest => rw [if_neg (List.cons_ne_nil first rest)]

/-- A block with the body of the constructor has been written under the header. -/
def ShowsBlock (constructor : Constructor) (header : String) (sink next : Sink) : Prop :=
  ∃ body, constructor.body = some body ∧
    next.text = sink.text ++ sink.place.documentation constructor.documentation ++
      sink.place.opening header ++ sink.place.closed body

variable {context : Context} {constructor : Constructor} {procedure : Procedure Unit}

/-- What is written under a header is written if the constructor is valid and has a body. -/
theorem exists_runOn_iff {header : String}
    (carriesOut : CarriesOut procedure (do
      constructor.validate context
      let body ← constructor.toMethod.requireBody .constructor
      pure (Script.ofDoc constructor.documentation ++ [.block header "" body])))
    (sink : Sink) :
    (∃ next, procedure.runOn sink = (next, .ok ())) ↔
      constructor.validate context = .ok () ∧ constructor.body.isSome = true := by
  simp only [carriesOut.runOn_eq_ok_iff, Rendering.bind_eq_ok_iff,
    Method.requireBody_eq_ok_iff, Option.isSome_iff_exists]
  constructor
  · rintro ⟨_, _, ⟨_, valid, body, hasBody, _⟩, _⟩
    exact ⟨valid, body, hasBody⟩
  · rintro ⟨valid, body, hasBody⟩
    exact ⟨_, _, ⟨(), valid, body, hasBody, rfl⟩, rfl⟩

theorem showsBlock_of_runOn {header : String} {sink next : Sink}
    (carriesOut : CarriesOut procedure (do
      constructor.validate context
      let body ← constructor.toMethod.requireBody .constructor
      pure (Script.ofDoc constructor.documentation ++ [.block header "" body])))
    (written : procedure.runOn sink = (next, .ok ())) :
    constructor.ShowsBlock header sink next := by
  rcases (carriesOut.runOn_eq_ok_iff _ _).mp written with ⟨_, rendered, rfl⟩
  rcases (Rendering.bind_eq_ok_iff _ _ _).mp rendered with ⟨_, _, behindCheck⟩
  rcases (Rendering.bind_eq_ok_iff _ _ _).mp behindCheck with ⟨body, required, whole⟩
  cases whole
  exact ⟨body, (Method.requireBody_eq_ok_iff _ _ _).mp required,
    Script.text_documented_block _ _ _ _⟩

theorem text_of_declaration {sink next : Sink}
    (written : (constructor.writeDeclaration context).runOn sink = (next, .ok ())) :
    next.text = sink.text ++ sink.place.documentation constructor.documentation ++
      sink.place.line (headerOver constructor.name constructor.arguments [] ++ ";") := by
  have carriesOut := constructor.carriesOut_writeDeclaration context
  rcases (carriesOut.runOn_eq_ok_iff _ _).mp written with ⟨_, rendered, rfl⟩
  rcases (Rendering.bind_eq_ok_iff _ _ _).mp rendered with ⟨_, _, whole⟩
  cases whole
  have prints := Script.prints_documented_line sink.place constructor.documentation
    (Declarator.signature constructor.name constructor.arguments ++ ";")
  rw [prints sink rfl, Sink.text_raw, headerOver, if_pos rfl, String.append_empty,
    ← String.append_assoc]
  rfl

/-! ## Moments -/

/-- A constructor, and the context as it is at the moment. -/
structure Moment where
  constructor : Constructor
  context : Context

/-- What happens from one moment to the next. -/
inductive Event
  | call (content : InitializerCall)
  /-- The state that the producers read changes. -/
  | turn (produced : Nat → List String)

namespace Event

/-- The call that is made, if there is one. -/
def call? : Event → Option InitializerCall
  | call content => some content
  | turn _ => none

end Event

namespace Moment

/-- The moment behind an event. -/
def after (moment : Moment) : Event → Moment
  | .call content => { moment with constructor := content.perform moment.constructor }
  | .turn produced => { moment with context := { moment.context with produced := produced } }

/-- The moment behind a run of events. -/
def run (start : Moment) (events : List Event) : Moment :=
  events.foldl after start

/-- The calls of a run, in order. -/
def calls (events : List Event) : List InitializerCall :=
  events.filterMap Event.call?

theorem constructor_run (start : Moment) (events : List Event) :
    (start.run events).constructor =
      (calls events).foldl InitializerCall.perform start.constructor := by
  induction events generalizing start with
  | nil => rfl
  | cons event rest inductionHypothesis =>
      rw [run, List.foldl_cons]
      refine (inductionHypothesis (start.after event)).trans ?_
      cases event <;> rfl

/-- The list that a run of events comes to: the last replacement, or what the constructor
began with, and what was added since.  Producers are read at the end of the run. -/
def replayed (start : Moment) (events : List Event) : List String :=
  InitializerCall.base (start.run events).context.produced
      (start.constructor.initializers.resolve (start.run events).context) (calls events) ++
    InitializerCall.addedSince (calls events)

/-- At the moment, the constructor has the list of initializers.  It shows them in front of its
body, inside the class and outside of it, and its declaration does not. -/
structure Shows (now : Moment) (list : List String) : Prop where
  resolved : now.constructor.initializers.resolve now.context = list
  definition : ∀ sink next,
    (now.constructor.writeDefinition now.context).runOn sink = (next, .ok ()) →
      now.constructor.ShowsBlock
        (headerOver (now.constructor.fullName now.context) now.constructor.arguments list) sink next
  own : ∀ sink next,
    (now.constructor.writeOwn now.context).runOn sink = (next, .ok ()) →
      now.constructor.ShowsBlock
        (headerOver now.constructor.name now.constructor.arguments list) sink next
  declaration : ∀ sink next,
    (now.constructor.writeDeclaration now.context).runOn sink = (next, .ok ()) →
      next.text = sink.text ++ sink.place.documentation now.constructor.documentation ++
        sink.place.line (headerOver now.constructor.name now.constructor.arguments [] ++ ";")
  definition_succeeds : ∀ sink,
    (∃ next, (now.constructor.writeDefinition now.context).runOn sink = (next, .ok ())) ↔
      now.constructor.validate now.context = .ok () ∧ now.constructor.body.isSome = true
  own_succeeds : ∀ sink,
    (∃ next, (now.constructor.writeOwn now.context).runOn sink = (next, .ok ())) ↔
      now.constructor.validate now.context = .ok () ∧ now.constructor.body.isSome = true

theorem shows_resolved (now : Moment) :
    now.Shows (now.constructor.initializers.resolve now.context) := by
  have definition := now.constructor.carriesOut_writeDefinition now.context
  have own := now.constructor.carriesOut_writeOwn now.context
  constructor
  case resolved => rfl
  case definition =>
    intro sink next written
    rw [← headerAs_eq]
    exact showsBlock_of_runOn definition written
  case own =>
    intro sink next written
    rw [← headerAs_eq]
    exact showsBlock_of_runOn own written
  case declaration =>
    intro sink next written
    exact text_of_declaration written
  case definition_succeeds => exact exists_runOn_iff definition
  case own_succeeds => exact exists_runOn_iff own

/-- The initializers of a constructor replay their history.

Whatever calls are made and however the state of the producers changes between them, the
constructor has at every moment the list of the last replacement, or the one that it began
with, and behind it what has been added since, in the order of the calls.  A producer is read
in the state of the moment, as if the additions had been wrapped around it one by one.  A
definition, inside the class or outside of it, is written under a header with this list, and
with no colon if the list is empty; a declaration has the same text whatever the list is. -/
theorem initializers_are_replayed (start : Moment) (events : List Event) :
    (start.run events).Shows (start.replayed events) ∧
      (start.run events).constructor.toMethod = start.constructor.toMethod ∧
      ((calls events).foldl WrappedInitializers.perform
          (.ofInitializers start.constructor.initializers)).resolve
        (start.run events).context.produced = start.replayed events := by
  have resolved : (start.run events).constructor.initializers.resolve (start.run events).context =
      start.replayed events := by
    rw [replayed, constructor_run, InitializerCall.resolve_foldl_perform]
  constructor
  · rw [← resolved]
    exact shows_resolved _
  constructor
  · rw [constructor_run, InitializerCall.toMethod_foldl_perform]
  · rw [WrappedInitializers.foldl_perform, ← constructor_run,
      WrappedInitializers.resolve_ofInitializers, resolved]

/-! ### A point

Its first initializer comes from a producer whose state changes after another one has been
added. -/

/-- A constructor without initializers, while every producer gives one for `m_x`. -/
def point : Moment where
  constructor := {
    name := "Point"
    link := some ⟨0⟩
    arguments := ["int x", "int y"]
    body := some [] }
  context := ⟨⟨#[some ⟨"Point", none, []⟩]⟩, fun _ => ["m_x(0)"]⟩

/-- Calls on the constructor, and then a turn of the producers. -/
def pointEvents : List Event :=
  [.call (.add "m_z(1)"), .call (.defer 0), .call (.add "m_y(0)"), .turn fun _ => ["m_x(5)"]]

theorem point_shows_current_state :
    (point.run pointEvents).Shows ["m_x(5)", "m_y(0)"] ∧
      ((point.run pointEvents).constructor.writeDefinition
          (point.run pointEvents).context).runOn (.empty .cpp) =
        (⟨.cpp, 0, "Point::Point(int x, int y) : m_x(5), m_y(0)\n\x7b\n\x7d\n"⟩, .ok ()) := by
  constructor
  · exact (initializers_are_replayed point pointEvents).1
  · refine Prod.ext ?_ rfl
    decide +kernel

end Moment

end Constructor

end CppModel
