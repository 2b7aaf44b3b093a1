import CppModel.Proofs.Layout.Content
import CppModel.Proofs.Layout.Place

/-!
# Blocks and levels

A block goes one level in at its opening brace and one level out at its closing brace.  What
stands between the braces may fail: a block closes all the same, a guarded block stays open
and passes the failure on, and a fork is given up together with the level that it has reached.
A script that does not move the level on its own therefore ends as many levels further in as
guarded blocks stay open outside of forks.

Whether a step fails can be told without a sink, and so can the number of blocks that it
leaves open.  Where nothing fails, each step has a layout, in which every brace that is
opened is closed in the place of its header.
-/

namespace CppModel

/-- The reason for which a step fails, if it does. -/
def Step.failure? (step : Step) : Option String :=
  step.content.2

/-- The reason of the failure that ends a script, if there is one. -/
def Script.failure? (script : Script) : Option String :=
  (Script.content script).2

mutual

/-- Whether the step changes the level other than by a block. -/
def Step.movesLevel : Step → Bool
  | .indent => true
  | .dedent => true
  | .block _ _ body => Script.movesLevel body
  | .guarded _ _ body => Script.movesLevel body
  | .fork body _ => Script.movesLevel body
  | _ => false

/-- Whether a step of the script changes the level other than by a block. -/
def Script.movesLevel : List Step → Bool
  | [] => false
  | step :: rest => Step.movesLevel step || Script.movesLevel rest

end

mutual

/-- The number of guarded blocks that a failure passes through while the step is carried
out.  Those on a fork are not counted, since a failure gives up the whole fork. -/
def Step.leftOpen : Step → Nat
  | .block _ _ body => Script.leftOpen body
  | .guarded _ _ body =>
      Script.leftOpen body + if (Script.failure? body).isSome then 1 else 0
  | _ => 0

/-- The number of guarded blocks that a failure passes through while the script is carried
out up to its first failure. -/
def Script.leftOpen : List Step → Nat
  | [] => 0
  | step :: rest =>
      Step.leftOpen step + if (Step.failure? step).isSome then 0 else Script.leftOpen rest

end

mutual

/-- Whether a failure occurs while the step is carried out, also one that is forgotten. -/
def Step.meetsFailure : Step → Bool
  | .fail _ => true
  | .block _ _ body => Script.meetsFailure body
  | .guarded _ _ body => Script.meetsFailure body
  | .fork body _ => Script.meetsFailure body
  | _ => false

/-- Whether a failure occurs while the script is carried out.  The first step that fails is
always reached. -/
def Script.meetsFailure : List Step → Bool
  | [] => false
  | step :: rest => Step.meetsFailure step || Script.meetsFailure rest

end

/-- A label, one level further out than the lines of the place. -/
def Place.label (place : Place) (text : String) : String :=
  String.ofList (place.style.margin (place.level - 1)) ++ text ++ ":\n"

mutual

/-- What a step writes in a place if no failure occurs. -/
def Step.layout (place : Place) : Step → String
  | .line text => place.line text
  | .blank => "\n"
  | .raw text => text
  | .label text => place.label text
  | .doc text => place.documentation (some text)
  | .block header closing body => place.block header closing (Script.layout place.inner body)
  | .guarded header closing body => place.block header closing (Script.layout place.inner body)
  | .fork body keep => if keep then Script.layout place body else ""
  | .indent => ""
  | .dedent => ""
  | .fail _ => ""

/-- What the steps of a script write in a place, one behind the other. -/
def Script.layout (place : Place) : List Step → String
  | [] => ""
  | step :: rest => Step.layout place step ++ Script.layout place rest

end

/-! ## Levels -/

theorem Step.run_snd (step : Step) (sink : Sink) : (Step.run step sink).2 = step.failure? :=
  (Step.shows_run step sink).2

theorem Script.run_snd (script : Script) (sink : Sink) :
    (Script.run script sink).2 = script.failure? :=
  (Script.shows_run script sink).2

mutual

/-- A step ends as many levels further in as it leaves guarded blocks open. -/
theorem Step.level_run :
    (step : Step) → step.movesLevel = false → (sink : Sink) →
      (Step.run step sink).1.level = sink.level + step.leftOpen
  | .line _, _, _ => rfl
  | .blank, _, _ => rfl
  | .raw _, _, _ => rfl
  | .label _, _, _ => rfl
  | .doc text, _, sink => Sink.level_doc sink text
  | .block header closing body, still, sink => by
      have inside := Script.level_run body still (sink.openBlock header)
      rw [Sink.level_openBlock] at inside
      rw [Step.run, Step.leftOpen, Sink.level_closeBlock, inside]
      omega
  | .guarded header closing body, still, sink => by
      have inside := Script.level_run body still (sink.openBlock header)
      have fails := Script.run_snd body (sink.openBlock header)
      rw [Sink.level_openBlock] at inside
      rw [Step.run, Step.leftOpen, ← fails]
      rcases ended : Script.run body (sink.openBlock header) with ⟨behind, failure⟩
      have raised : behind.level = sink.level + 1 + Script.leftOpen body := by
        rw [← inside, ended]
      cases failure with
      | none =>
          -- The closing brace takes back the level of the opening one.
          change (behind.closeBlock closing).level = _ + (_ + 0)
          rw [Sink.level_closeBlock, raised]
          omega
      | some reason =>
          change behind.level = _ + (_ + 1)
          omega
  | .fail _, _, _ => rfl
  | .fork body keep, _, sink => by
      rw [Step.run]
      rcases Script.run body sink.fork with ⟨behind, _ | reason⟩
      · cases keep <;> rfl
      · rfl

/-- A script ends as many levels further in as it leaves guarded blocks open. -/
theorem Script.level_run :
    (script : List Step) → Script.movesLevel script = false → (sink : Sink) →
      (Script.run script sink).1.level = sink.level + Script.leftOpen script
  | [], _, sink => by rw [Script.run, Script.leftOpen, Nat.add_zero]
  | step :: rest, still, sink => by
      rw [Script.movesLevel, Bool.or_eq_false_iff] at still
      have first := Step.level_run step still.1 sink
      have fails := Step.run_snd step sink
      rw [Script.run, Script.leftOpen, ← fails]
      rcases ended : Step.run step sink with ⟨next, failure⟩
      have reached : next.level = sink.level + Step.leftOpen step := by rw [← first, ended]
      cases failure with
      | none =>
          have last := Script.level_run rest still.2 next
          rw [reached, Nat.add_assoc] at last
          exact last
      | some reason => exact reached

end

/-! ## Layouts -/

namespace Script

variable {place : Place} {text : String}

theorem Prints.cons {step : Step} {rest : Script} {restText : String}
    (prints : Prints place text [step]) (restPrints : rest.Prints place restText) :
    Prints place (text ++ restText) (step :: rest) :=
  prints.append restPrints

theorem prints_label_step (place : Place) (text : String) :
    Prints place (place.label text) [.label text] := by
  rintro sink rfl
  rw [run_singleton, Step.run, Sink.label, Sink.raw_raw, Sink.raw_raw, Place.label,
    String.append_assoc]
  rfl

theorem Prints.guarded {body : Script} (prints : body.Prints place.inner text)
    (header closing : String) :
    Prints place (place.block header closing text) [.guarded header closing body] := by
  intro sink inPlace
  have asBlock := prints_block header closing prints.run_fst_eq sink inPlace
  have inside := prints (sink.openBlock header) (by rw [← inPlace, Sink.openBlock_eq_raw]; rfl)
  rw [run_singleton, Step.run, inside] at asBlock
  rw [run_singleton, Step.run.eq_def]
  simp only [inside]
  exact asBlock

/-- A fork that is not kept leaves nothing. -/
theorem Prints.dropped_fork {body : Script} (prints : body.Prints place text) :
    Prints place "" [.fork body false] := by
  intro sink inPlace
  rw [run_singleton, Step.run, prints sink.fork inPlace, Sink.raw_empty]
  rfl

end Script

mutual

/-- A step without failures prints its layout. -/
theorem Step.prints_layout :
    (step : Step) → step.movesLevel = false → step.meetsFailure = false → (place : Place) →
      Script.Prints place (step.layout place) [step]
  | .line text, _, _, place => Script.prints_line place text
  | .blank, _, _, _ => fun sink _ => by rw [Script.run_singleton]; rfl
  | .raw text, _, _, _ => fun sink _ => by rw [Script.run_singleton]; rfl
  | .label text, _, _, place => Script.prints_label_step place text
  | .doc text, _, _, place => Script.prints_ofDoc place (some text)
  | .block header closing body, still, smooth, place =>
      Script.prints_block header closing
        (Script.prints_layout body still smooth place.inner).run_fst_eq
  | .guarded header closing body, still, smooth, place =>
      (Script.prints_layout body still smooth place.inner).guarded header closing
  | .fork body true, still, smooth, place =>
      (Script.prints_layout body still smooth place).fork
  | .fork body false, still, smooth, place =>
      (Script.prints_layout body still smooth place).dropped_fork

/-- A script without failures prints its layout. -/
theorem Script.prints_layout :
    (script : List Step) → Script.movesLevel script = false →
      Script.meetsFailure script = false → (place : Place) →
        Script.Prints place (Script.layout place script) script
  | [], _, _, place => Script.prints_nil place
  | step :: rest, still, smooth, place => by
      rw [Script.movesLevel, Bool.or_eq_false_iff] at still
      rw [Script.meetsFailure, Bool.or_eq_false_iff] at smooth
      exact (Step.prints_layout step still.1 smooth.1 place).cons
        (Script.prints_layout rest still.2 smooth.2 place)

end

/-- What becomes of a sink when a script is carried out that does not move the level on its
own: its text is extended, and its level is raised by the number of guarded blocks that stay
open.  Where no failure occurs, the level is as before, and the script has written its layout,
in which every brace is closed in the place of its header.

A fork that fails or is not kept leaves the sink as it was, and a kept one adds the text that
its steps write on an empty sink in the same place. -/
theorem blocks_account_for_levels {script : Script} (still : Script.movesLevel script = false)
    (sink : Sink) :
    (∃ part, (Script.run script sink).1.text = sink.text ++ part) ∧
      (Script.run script sink).1.level = sink.level + Script.leftOpen script ∧
      (Script.run script sink).2 = Script.failure? script ∧
      (Script.meetsFailure script = false →
        Script.run script sink = (sink.raw (Script.layout sink.place script), none)) ∧
      ∀ body keep,
        ((Step.run (.fork body keep) sink).2.isSome ∨ keep = false →
          (Step.run (.fork body keep) sink).1 = sink) ∧
        ((Step.run (.fork body keep) sink).2 = none ∧ keep = true →
          (Step.run (.fork body keep) sink).1 =
            sink.raw (Script.run body ⟨sink.style, sink.level, ""⟩).1.text) := by
  refine ⟨⟨_, script.text_run sink⟩, Script.level_run script still sink, script.run_snd sink,
    ?smooth, fun body keep => ?fork⟩
  case smooth => exact fun smooth => Script.prints_layout script still smooth sink.place sink rfl
  case fork =>
    rw [Step.run]
    change _ ∧ (_ → _ = sink.raw (Script.run body sink.fork).1.text)
    rcases Script.run body sink.fork with ⟨behind, _ | reason⟩
    · cases keep <;> simp [Sink.append]
    · simp

namespace Attempt

/-- A guarded block that closes, a block that forgets a failure behind a guarded block, and a
fork that is given up. -/
def program : Script :=
  [.guarded "try" "" [.line "open();"],
   .block "catch" ";" [.guarded "if (again)" "" [.label "retry", .fail "lost"], .line "close();"],
   .fork [.guarded "finally" "" [.fail "gone"]] true,
   .line "return;"]

/-- What the program leaves of a sink one level in: the block in the middle is closed in the
place of the block that was left open inside it. -/
def written : String :=
  String.join ["  try \x7b\n", "    open();\n", "  \x7d\n", "  catch \x7b\n",
    "    if (again) \x7b\n", "    retry:\n", "    \x7d;\n"]

end Attempt

open Attempt in
/-- One block stays open, and so the program ends one level further in. -/
theorem level_of_attempt :
    Script.movesLevel program = false ∧ Script.leftOpen program = 1 ∧
      (Script.run program ⟨.narrow, 1, ""⟩).1.level = 2 ∧
      (Script.run program ⟨.narrow, 1, ""⟩).2 = some "gone" ∧
      (Script.run program ⟨.narrow, 1, ""⟩).1.text = written := by
  have still : Script.movesLevel program = false := rfl
  obtain ⟨_, level, failure, _⟩ := blocks_account_for_levels still ⟨.narrow, 1, ""⟩
  exact ⟨still, rfl, level, failure, by decide +kernel⟩

end CppModel
