import CppModel.Proofs.Sink.Paragraphs
import CppModel.TranslationUnit

/-!
# What renderings look like

Every rendering that succeeds has one of a few shapes: nothing, a documented line,
a documented block, a block that is written as a whole, or paragraphs of such
scripts.  From the shape alone it follows that the script is total and writes lines, and
at which level it ends.

Elements are rendered in three forms and units on two sides; both are collected
here, so that a statement about all of them needs no list of functions.
-/

namespace CppModel

namespace Script

/-- The scripts of an element with the given body. -/
inductive Shape (body : Option Script) : Script → Prop
  | nothing : Shape body []
  | line (documentation : Option String) (text : String) :
      Shape body (ofDoc documentation ++ [Step.line text])
  | lines (documentation : Option String) (header closing : String) (texts : List String) :
      Shape body (ofDoc documentation ++ [Step.block header closing (ofLines texts)])
  /-- The body is the only part of a script that may move the level. -/
  | around (documentation : Option String) (header : String) (content : Script)
      (isBody : body = some content) :
      Shape body (ofDoc documentation ++ [Step.block header "" content])
  | whole (documentation : Option String) (header closing : String) (members : Script) :
      Shape body [.fork (ofDoc documentation ++ [Step.block header closing members]) true]
  | paragraphs (scripts : List Script) (total : ∀ script ∈ scripts, script.Total)
      (lines : ∀ script ∈ scripts, script.WritesLines) :
      Shape body (Script.paragraphs scripts)

variable {body : Option Script}

theorem total_documented_line (documentation : Option String) (text : String) :
    (ofDoc documentation ++ [Step.line text]).Total :=
  (total_ofDoc documentation).append (total_line text)

theorem total_documented_block (documentation : Option String) (header closing : String)
    (content : Script) : (ofDoc documentation ++ [Step.block header closing content]).Total :=
  (total_ofDoc documentation).append (total_block header closing content)

theorem writesLines_documented_block (documentation : Option String) (header closing : String)
    (content : Script) :
    (ofDoc documentation ++ [Step.block header closing content]).WritesLines := by
  apply writesLines_append (total_ofDoc documentation)
  intro next
  rw [Step.run]
  exact ⟨_, Sink.text_line _ _⟩

/-- No script of an element fails. -/
theorem Shape.total {script : Script} (shape : Shape body script) : script.Total := by
  cases shape with
  | nothing => exact total_nil
  | line documentation text => exact total_documented_line documentation text
  | lines documentation header closing texts => exact total_documented_block _ _ _ _
  | around documentation header content isBody => exact total_documented_block _ _ _ _
  | whole documentation header closing members =>
      exact total_fork (total_documented_block documentation header closing members)
  | paragraphs scripts total lines => exact total_paragraphs total

/-- A script of an element that has steps writes lines. -/
theorem Shape.writesLines {script : Script} (shape : Shape body script) :
    script.WritesLines := by
  cases shape with
  | nothing => exact writesLines_nil
  | line documentation text =>
      apply writesLines_append (total_ofDoc documentation)
      intro next
      rw [Step.run]
      exact ⟨_, Sink.text_line _ _⟩
  | lines documentation header closing texts => exact writesLines_documented_block _ _ _ _
  | around documentation header content isBody => exact writesLines_documented_block _ _ _ _
  | whole documentation header closing members =>
      intro _ sink
      rw [textAt_fork (total_documented_block documentation header closing members)]
      exact writesLines_documented_block _ _ _ _ (by simp) sink
  | paragraphs scripts total lines => exact writesLines_paragraphs total lines

/-- A block ends at the level where it began if its inside does. -/
theorem level_documented_block (documentation : Option String) (header closing : String)
    {content : Script} (sink : Sink) (restores : content.Restores (sink.level + 1)) :
    (Script.run (ofDoc documentation ++ [Step.block header closing content]) sink).1.level =
      sink.level := by
  rw [(total_ofDoc documentation).run_append, run_singleton, Step.run]
  have inside := restores ((Script.run (ofDoc documentation) sink).1.openBlock header) (by
    rw [Sink.level_openBlock, run_ofDoc_level])
  rw [Sink.level_closeBlock, inside, Nat.add_sub_cancel]

/-- A script of an element ends at the level where it began, if the body of the
element does. -/
theorem Shape.level {script : Script} (shape : Shape body script) (sink : Sink)
    (restores : ∀ content, body = some content → content.Restores (sink.level + 1)) :
    (Script.run script sink).1.level = sink.level := by
  cases shape with
  | nothing => rw [run_nil]
  | line documentation text =>
      rw [(total_ofDoc documentation).run_append, run_singleton, Step.run, Sink.level_line,
        run_ofDoc_level]
  | lines documentation header closing texts =>
      exact level_documented_block documentation header closing sink (restores_ofLines texts _)
  | around documentation header content isBody =>
      exact level_documented_block documentation header "" sink (restores content isBody)
  | whole documentation header closing members =>
      rw [run_singleton, run_fork (total_documented_block documentation header closing members)]
      rfl
  | paragraphs scripts total lines =>
      rw [run_paragraphs total]
      rfl

end Script

namespace Rendering

/-- A rendering that succeeds after a check has passed the check. -/
theorem bind_eq_ok_iff {First Second : Type} (first : Except Error First)
    (next : First → Except Error Second) (result : Second) :
    (first >>= next) = .ok result ↔ ∃ value, first = .ok value ∧ next value = .ok result := by
  cases first with
  | error error => simp [bind, Except.bind]
  | ok value => simp [bind, Except.bind]

/-- If the rendering succeeds, the condition holds of its script. -/
def Gives (condition : Script → Prop) (rendering : Rendering) : Prop :=
  ∀ script, rendering = .ok script → condition script

section Gives

variable {condition : Script → Prop}

theorem gives_pure {script : Script} (holds : condition script) :
    Gives condition (pure script) := by
  rintro _ ⟨⟩
  exact holds

theorem gives_error (error : Error) : Gives condition (.error error) := by
  rintro script ⟨⟩

theorem gives_bind {First : Type} {first : Except Error First} {next : First → Rendering}
    (gives : ∀ value, first = .ok value → Gives condition (next value)) :
    Gives condition (first >>= next) := by
  intro script equal
  obtain ⟨value, passed, rest⟩ := (bind_eq_ok_iff first next script).mp equal
  exact gives value passed script rest

end Gives

/-- The rendering gives a script that never fails, if any. -/
def Total (rendering : Rendering) : Prop :=
  ∀ script, rendering = .ok script → script.Total

theorem total_ok {script : Script} (total : script.Total) : Total (.ok script) :=
  gives_pure total

/-- The rendering gives scripts of the shape of an element with the given body. -/
def HasShape (body : Option Script) (rendering : Rendering) : Prop :=
  ∀ script, rendering = .ok script → Script.Shape body script

variable {body : Option Script}

theorem HasShape.total {rendering : Rendering} (hasShape : HasShape body rendering) :
    rendering.Total :=
  fun script equal => (hasShape script equal).total

theorem hasShape_pure {script : Script} (shape : Script.Shape body script) :
    HasShape body (pure script) :=
  gives_pure shape

theorem hasShape_error (error : Error) : HasShape body (.error error) :=
  gives_error error

theorem hasShape_bind {First : Type} {first : Except Error First} {next : First → Rendering}
    (shape : ∀ value, first = .ok value → HasShape body (next value)) :
    HasShape body (first >>= next) :=
  gives_bind shape

/-- All renderings of a list succeed exactly when each of them gives the script at
its place. -/
theorem all_eq_ok_iff (renderings : List Rendering) (scripts : List Script) :
    all renderings = .ok scripts ↔ renderings = scripts.map .ok := by
  induction renderings generalizing scripts with
  | nil => cases scripts <;> simp
  | cons first rest inductionHypothesis =>
      cases first with
      | error error => cases scripts <;> simp
      | ok script =>
          simp only [all, bind_eq_ok_iff, Except.ok.injEq, exists_eq_left', pure,
            Except.pure, inductionHypothesis]
          cases scripts with
          | nil => simp
          | cons other others =>
              simp only [List.cons.injEq, List.map_cons, Except.ok.injEq]
              constructor
              · rintro ⟨value, restEq, rfl, rfl⟩
                exact ⟨rfl, restEq⟩
              · rintro ⟨rfl, restEq⟩
                exact ⟨others, restEq, rfl, rfl⟩

/-- What holds of the script of each rendering of a list holds of all scripts. -/
theorem forall_mem_of_all {condition : Script → Prop} {renderings : List Rendering}
    {scripts : List Script} (gives : ∀ rendering ∈ renderings, Gives condition rendering)
    (succeeded : all renderings = .ok scripts) : ∀ script ∈ scripts, condition script := by
  rw [all_eq_ok_iff] at succeeded
  subst succeeded
  exact fun script listed => gives (.ok script) (List.mem_map_of_mem listed) script rfl

/-- The scripts of renderings that have some shape never fail, and each of them writes
lines unless it has no steps. -/
theorem total_and_writesLines_of_all {renderings : List Rendering} {scripts : List Script}
    (shapes : ∀ rendering ∈ renderings, ∃ inner, HasShape inner rendering)
    (succeeded : all renderings = .ok scripts) :
    (∀ script ∈ scripts, script.Total) ∧ ∀ script ∈ scripts, script.WritesLines := by
  have scriptShape : ∀ script ∈ scripts, ∃ inner, Script.Shape inner script := by
    refine forall_mem_of_all (fun rendering member => ?_) succeeded
    obtain ⟨inner, shape⟩ := shapes rendering member
    exact fun script rendered => ⟨inner, shape script rendered⟩
  constructor
  · intro script member
    rcases scriptShape script member with ⟨inner, shape⟩
    exact shape.total
  · intro script member
    rcases scriptShape script member with ⟨inner, shape⟩
    exact shape.writesLines

/-- The scripts of renderings that have some shape never fail, and each of them writes
something unless it has no steps. -/
theorem total_and_visible_of_all {renderings : List Rendering} {scripts : List Script}
    (shapes : ∀ rendering ∈ renderings, ∃ inner, HasShape inner rendering)
    (succeeded : all renderings = .ok scripts) :
    (∀ script ∈ scripts, script.Total) ∧ ∀ script ∈ scripts, script.Visible := by
  obtain ⟨total, lines⟩ := total_and_writesLines_of_all shapes succeeded
  exact ⟨total, fun script member => (lines script member).visible⟩

/-- Paragraphs of renderings that have some shape have the shape of paragraphs. -/
theorem hasShape_paragraphs {renderings : List Rendering}
    (shapes : ∀ rendering ∈ renderings, ∃ inner, HasShape inner rendering) :
    HasShape body (paragraphs renderings) := by
  apply hasShape_bind
  intro scripts succeeded
  obtain ⟨total, lines⟩ := total_and_writesLines_of_all shapes succeeded
  exact hasShape_pure (.paragraphs scripts total lines)

end Rendering

end CppModel
