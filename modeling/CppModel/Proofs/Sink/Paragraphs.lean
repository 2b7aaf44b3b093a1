import CppModel.Proofs.Sink.Locality

/-!
# Total and visible scripts

A script is total if it never fails, and visible if it writes something unless it
has no steps.  The scripts of generated elements are both, which is why the
paragraphs of a file can be told apart by their scripts: a script that is left out
is one that would have written nothing.  They are visible because they write whole
lines.
-/

namespace CppModel

namespace Script

/-- The script does not fail on any sink. -/
def Total (script : Script) : Prop :=
  ∀ sink, (Script.run script sink).2 = none

/-- The script writes something on every sink, unless it has no steps. -/
def Visible (script : Script) : Prop :=
  script ≠ [] → ∀ sink, script.textAt sink ≠ ""

/-- A script that has steps writes lines: its text ends with a line feed. -/
def WritesLines (script : Script) : Prop :=
  script ≠ [] → ∀ sink, ∃ front, script.textAt sink = front ++ "\n"

/-- The script ends at the level at which it began. -/
def Restores (script : Script) (level : Nat) : Prop :=
  ∀ sink : Sink, sink.level = level → (Script.run script sink).1.level = level

theorem total_nil : Total [] := by
  intro sink
  rw [run_nil]

theorem writesLines_nil : WritesLines [] :=
  fun nonempty => absurd rfl nonempty

@[simp]
theorem textAt_nil (sink : Sink) : textAt sink [] = "" := by
  rw [textAt, run_nil]
  rfl

/-- A total script ends in a sink without a failure. -/
theorem Total.run_eq {script : Script} (total : script.Total) (sink : Sink) :
    Script.run script sink = ((Script.run script sink).1, none) :=
  Prod.ext rfl (total sink)

/-- Behind a total script, the next one starts where it ended. -/
theorem Total.run_append {first : Script} (total : first.Total) (second : Script) (sink : Sink) :
    Script.run (first ++ second) sink = Script.run second (Script.run first sink).1 := by
  rw [Script.run_append, total.run_eq]

theorem Total.append {first second : Script} (firstTotal : first.Total)
    (secondTotal : second.Total) : Total (first ++ second) := by
  intro sink
  rw [firstTotal.run_append]
  exact secondTotal _

/-- A single step that does not fail is a total script. -/
theorem run_singleton (step : Step) (sink : Sink) :
    Script.run [step] sink = Step.run step sink := by
  rw [run_cons]
  cases Step.run step sink with
  | mk next failure =>
      cases failure with
      | none => exact run_nil next
      | some reason => rfl

theorem total_line (text : String) : Total [.line text] := by
  intro sink
  rw [run_singleton]
  rfl

/-- A block forgets what fails inside it. -/
theorem total_block (header closing : String) (body : Script) :
    Total [.block header closing body] := by
  intro sink
  rw [run_singleton, Step.run]

theorem total_ofDoc (documentation : Option String) : (ofDoc documentation).Total := by
  cases documentation with
  | none => exact total_nil
  | some text =>
      intro sink
      rw [ofDoc, run_singleton, Step.run]

theorem run_ofDoc_level (documentation : Option String) (sink : Sink) :
    (Script.run (ofDoc documentation) sink).1.level = sink.level := by
  cases documentation with
  | none => rw [ofDoc, run_nil]
  | some text =>
      rw [ofDoc, run_singleton, Step.run]
      exact Sink.level_doc sink text

/-- Lines leave the level alone. -/
theorem restores_ofLines (texts : List String) (level : Nat) : (ofLines texts).Restores level := by
  rw [ofLines]
  induction texts with
  | nil =>
      intro sink start
      simpa only [List.map_nil, run_nil] using start
  | cons first rest inductionHypothesis =>
      intro sink start
      rw [List.map_cons, run_cons, Step.run]
      exact inductionHypothesis (sink.line first) start

/-- Text that ends a line is not empty. -/
theorem append_newline_ne_empty (text : String) : text ++ "\n" ≠ "" := by
  intro empty
  have chars := congrArg String.toList empty
  simp at chars

theorem WritesLines.visible {script : Script} (lines : script.WritesLines) : script.Visible := by
  intro steps sink
  obtain ⟨front, ends⟩ := lines steps sink
  rw [ends]
  exact append_newline_ne_empty front

/-- A script that ends with a step that ends a line ends a line. -/
theorem writesLines_append {first : Script} (total : first.Total) {last : Step}
    (endsLine : ∀ next : Sink, ∃ text, (Step.run last next).1.text = text ++ "\n") :
    (first ++ [last]).WritesLines := by
  intro _ sink
  rw [textAt, total.run_append, run_singleton]
  exact endsLine (Script.run first sink.fork).1

/-- A kept fork of a total script adds the text that the script writes. -/
theorem run_fork {script : Script} (total : script.Total) (sink : Sink) :
    Step.run (.fork script true) sink = (sink.raw (script.textAt sink), none) := by
  rw [Step.run, total.run_eq]
  rfl

theorem total_fork {script : Script} (total : script.Total) : Total [.fork script true] := by
  intro sink
  rw [run_singleton, run_fork total]

theorem textAt_fork {script : Script} (total : script.Total) (sink : Sink) :
    textAt sink [.fork script true] = script.textAt sink := by
  rw [textAt, run_singleton, run_fork total]
  simp [Sink.fork, textAt]

/-! ## Paragraphs -/

/-- Kept forks with a blank line between them add the texts of their scripts with
a line break between them. -/
theorem run_intercalate_forks {scripts : List Script} (total : ∀ script ∈ scripts, script.Total)
    (sink : Sink) :
    Script.run ([Step.blank].intercalate (scripts.map fun script => [Step.fork script true])) sink =
      (sink.raw ("\n".intercalate (scripts.map (textAt sink))), none) := by
  induction scripts generalizing sink with
  | nil =>
      rw [List.map_nil, List.intercalate_nil, run_nil]
      simp [Sink.raw]
  | cons first rest inductionHypothesis =>
      have firstTotal := total first List.mem_cons_self
      have restTotal : ∀ script ∈ rest, script.Total :=
        fun script member => total script (List.mem_cons_of_mem _ member)
      cases rest with
      | nil =>
          simp only [List.map_cons, List.map_nil, List.intercalate_singleton,
            String.intercalate_singleton]
          rw [run_singleton, run_fork firstTotal]
      | cons second others =>
          -- The rest starts in the same place, behind the first text and a line break.
          have samePlace : textAt (sink.raw (first.textAt sink)).blank = textAt sink :=
            funext fun script => textAt_eq_of_place script rfl rfl
          have behind := inductionHypothesis restTotal (sink.raw (first.textAt sink)).blank
          rw [samePlace] at behind
          simp only [List.map_cons] at behind
          simp only [List.map_cons, List.intercalate_cons_cons, String.intercalate_cons_cons]
          rw [List.append_assoc, (total_fork firstTotal).run_append, run_singleton,
            run_fork firstTotal, List.singleton_append, run_cons, Step.run]
          refine behind.trans ?_
          simp [Sink.raw, Sink.blank, String.append_assoc]

/-- The scripts that have steps. -/
def nonempty (scripts : List Script) : List Script :=
  scripts.filter (! ·.isEmpty)

/-- Paragraphs add the texts of the scripts that have steps, with a line break
between them. -/
theorem run_paragraphs {scripts : List Script} (total : ∀ script ∈ scripts, script.Total)
    (sink : Sink) :
    Script.run (paragraphs scripts) sink =
      (sink.raw ("\n".intercalate ((nonempty scripts).map (textAt sink))), none) :=
  run_intercalate_forks (fun script member => total script (List.mem_filter.mp member).1) sink

theorem total_paragraphs {scripts : List Script} (total : ∀ script ∈ scripts, script.Total) :
    (paragraphs scripts).Total := by
  intro sink
  rw [run_paragraphs total]

theorem textAt_paragraphs {scripts : List Script} (total : ∀ script ∈ scripts, script.Total)
    (sink : Sink) :
    (paragraphs scripts).textAt sink =
      "\n".intercalate ((nonempty scripts).map (textAt sink)) := by
  have samePlace : textAt sink.fork = textAt sink :=
    funext fun script => textAt_eq_of_place script rfl rfl
  rw [textAt, run_paragraphs total, samePlace]
  simp [Sink.fork]

theorem paragraphs_eq_nil_iff (scripts : List Script) :
    paragraphs scripts = [] ↔ nonempty scripts = [] := by
  rw [paragraphs]
  change _ ↔ scripts.filter _ = []
  cases scripts.filter (! ·.isEmpty) with
  | nil => simp
  | cons first rest =>
      cases rest with
      | nil => simp
      | cons second others => simp [List.intercalate_cons_cons]

/-- Texts that end lines end a line when they are joined. -/
theorem endsLine_intercalate {texts : List String} (nonempty : texts ≠ []) (separator : String)
    (endsLine : ∀ text ∈ texts, ∃ front, text = front ++ "\n") :
    ∃ front, separator.intercalate texts = front ++ "\n" := by
  induction texts with
  | nil => exact absurd rfl nonempty
  | cons first rest inductionHypothesis =>
      obtain ⟨firstEnds, restEnds⟩ := List.forall_mem_cons.mp endsLine
      cases rest with
      | nil => simpa using firstEnds
      | cons second others =>
          obtain ⟨front, joined⟩ := inductionHypothesis (List.cons_ne_nil _ _) restEnds
          rw [String.intercalate_cons_cons, joined, ← String.append_assoc]
          exact ⟨_, rfl⟩

/-- Paragraphs of lines are lines. -/
theorem writesLines_paragraphs {scripts : List Script} (total : ∀ script ∈ scripts, script.Total)
    (lines : ∀ script ∈ scripts, script.WritesLines) : (paragraphs scripts).WritesLines := by
  intro steps sink
  rw [textAt_paragraphs total]
  apply endsLine_intercalate
  · rw [ne_eq, List.map_eq_nil_iff, ← paragraphs_eq_nil_iff]
    exact steps
  · intro text listed
    obtain ⟨script, isKept, rfl⟩ := List.mem_map.mp listed
    obtain ⟨isScript, hasSteps⟩ := List.mem_filter.mp isKept
    exact lines script isScript (by simpa using hasSteps) sink

/-- Of visible scripts, those without steps are those without text. -/
theorem map_textAt_nonempty {scripts : List Script}
    (visible : ∀ script ∈ scripts, script.Visible) (sink : Sink) :
    (nonempty scripts).map (textAt sink) = (scripts.map (textAt sink)).filter (! ·.isEmpty) := by
  induction scripts with
  | nil => rfl
  | cons first rest inductionHypothesis =>
      have restEq := inductionHypothesis fun script member =>
        visible script (List.mem_cons_of_mem _ member)
      rw [nonempty] at restEq ⊢
      cases first with
      | nil => simpa using restEq
      | cons step others =>
          have writes := visible (step :: others) List.mem_cons_self (List.cons_ne_nil _ _) sink
          simp [writes, restEq]

end Script

end CppModel
