import CppModel.Proofs.Procedure.Elements

/-!
# Chunks

The definitions of a class are collected before any of them is written: each goes to a
fork of its own, and the texts of the forks are the chunks.  A nested class collects
into the same list as the classes around it.  When all chunks are complete, they are
joined, each but the first behind a blank line.

Collecting ends in the first error, with the chunks in front of it in the list.
-/

namespace CppModel

open Procedure Process

namespace Sink

/-- The texts of renderings that all succeed, without the empty ones. -/
theorem collect_of_all_eq_ok (sink : Sink) (scripts : List Script) :
    sink.collect (scripts.map .ok) =
      ((scripts.map (Script.textAt sink)).filter (! ·.isEmpty), .ok ()) := by
  induction scripts with
  | nil => rfl
  | cons first rest inductionHypothesis =>
      simp only [List.map_cons, collect, inductionHypothesis, List.filter_cons]
      by_cases silent : (first.textAt sink).isEmpty <;> simp [silent]

/-- Collecting ends in the first error of the renderings. -/
theorem collect_of_all_eq_error (sink : Sink) {renderings : List Rendering} {error : Error}
    (fails : Rendering.all renderings = .error error) :
    (sink.collect renderings).2 = .error error := by
  induction renderings with
  | nil => cases fails
  | cons first rest inductionHypothesis =>
      cases first with
      | error other =>
          cases fails
          rfl
      | ok script =>
          apply inductionHypothesis
          cases restAll : Rendering.all rest with
          | error other =>
              rw [Rendering.all, restAll] at fails
              exact fails
          | ok scripts =>
              rw [Rendering.all, restAll] at fails
              cases fails

/-- What has been collected before an error is what stands in front of it. -/
theorem collect_eq_error {sink : Sink} {renderings : List Rendering} {texts : List String}
    {error : Error} (collected : sink.collect renderings = (texts, .error error)) :
    ∃ (before : List Script) (rest : List Rendering),
      renderings = before.map .ok ++ .error error :: rest ∧
      texts = (before.map (Script.textAt sink)).filter (! ·.isEmpty) := by
  induction renderings generalizing texts with
  | nil => simp [collect] at collected
  | cons first rest inductionHypothesis =>
      cases first with
      | error other =>
          simp only [collect, Prod.mk.injEq, Except.error.injEq] at collected
          obtain ⟨rfl, rfl⟩ := collected
          exact ⟨[], rest, rfl, rfl⟩
      | ok script =>
          cases restCollected : sink.collect rest with
          | mk restTexts outcome =>
              simp only [collect, restCollected, Prod.mk.injEq] at collected
              obtain ⟨rfl, rfl⟩ := collected
              obtain ⟨before, others, rfl, rfl⟩ := inductionHypothesis restCollected
              refine ⟨script :: before, others, rfl, ?_⟩
              by_cases silent : (script.textAt sink).isEmpty <;> simp [silent]

/-- Collecting from two lists goes on with the second one if the first one had no
error. -/
theorem collect_append (sink : Sink) (first second : List Rendering) :
    sink.collect (first ++ second) =
      match sink.collect first with
      | (texts, .ok ()) => (texts ++ (sink.collect second).1, (sink.collect second).2)
      | (texts, .error error) => (texts, .error error) := by
  induction first with
  | nil => rfl
  | cons rendering rest inductionHypothesis =>
      cases rendering with
      | error error => rfl
      | ok script =>
          simp only [List.cons_append, collect, inductionHypothesis]
          cases sink.collect rest with
          | mk texts outcome =>
              cases outcome with
              | error error => rfl
              | ok finished => by_cases silent : (script.textAt sink).isEmpty <;> simp [silent]

end Sink

namespace Collector

/-- The collector adds the texts of the renderings, and ends in their first error. -/
def Collects (template : Sink) (collector : Collector Unit) (renderings : List Rendering) : Prop :=
  ∀ chunks, collector.runOn chunks =
    (chunks ++ (template.collect renderings).1, (template.collect renderings).2)

theorem collects_nil (template : Sink) : Collects template (pure ()) [] := by
  intro chunks
  simp [Sink.collect]

theorem collects_append {template : Sink} {first second : Collector Unit}
    {front back : List Rendering} (firstCollects : Collects template first front)
    (secondCollects : Collects template second back) :
    Collects template (do first; second) (front ++ back) := by
  intro chunks
  have firstRun := firstCollects chunks
  rw [Sink.collect_append]
  cases collected : template.collect front with
  | mk texts outcome =>
      rw [collected] at firstRun
      cases outcome with
      | error error => rw [runOn_bind_error firstRun]
      | ok finished =>
          rw [runOn_bind_ok firstRun, secondCollects, List.append_assoc]

theorem collects_one {template : Sink} {procedure : Procedure Unit} {rendering : Rendering}
    (carriesOut : CarriesOut procedure rendering) :
    Collects template (collect template procedure) [rendering] := by
  intro chunks
  rw [collect, carriesOut]
  cases rendering with
  | error error => simp [Sink.write, Sink.collect]
  | ok script =>
      by_cases silent : (script.textAt template).isEmpty <;>
        simp [Sink.write, Sink.collect, Script.isEmpty_run_fork, Script.text_run_fork, silent]

theorem collects_each {template : Sink} {procedures : List (Procedure Unit)}
    {renderings : List Rendering}
    (carryOut : List.Forall₂ CarriesOut procedures renderings) :
    Collects template (collectEach template procedures) renderings := by
  induction carryOut with
  | nil => exact collects_nil template
  | cons first _ inductionHypothesis =>
      exact collects_append (collects_one first) inductionHypothesis

/-- Behind the first chunk, every chunk has a blank line in front. -/
theorem join_succ (joined : Sink) (index : Nat) (chunks : List String) :
    join joined (index + 1) chunks =
      joined.raw ("\n".intercalate ("" :: chunks)) := by
  induction chunks generalizing joined index with
  | nil => simp [join, Sink.raw]
  | cons first rest inductionHypothesis =>
      rw [join, if_pos (Nat.succ_pos index), inductionHypothesis]
      cases rest with
      | nil => simp [Sink.raw, Sink.blank, String.append_assoc]
      | cons second others => simp [Sink.raw, Sink.blank, String.append_assoc]

theorem join_zero (joined : Sink) (chunks : List String) :
    join joined 0 chunks = joined.raw ("\n".intercalate chunks) := by
  cases chunks with
  | nil => simp [join, Sink.raw]
  | cons first rest =>
      rw [join, if_neg (Nat.lt_irrefl 0), join_succ]
      cases rest with
      | nil => simp [Sink.raw]
      | cons second others => simp [Sink.raw, String.append_assoc]

end Collector

end CppModel
