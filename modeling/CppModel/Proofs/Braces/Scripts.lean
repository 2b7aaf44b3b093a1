import CppModel.Proofs.Braces.Documentation
import CppModel.Proofs.Layout.Content

/-!
# Scripts with balanced braces

Whether what a script writes is balanced can be read off its content, since layout has no
braces.  A block puts its inside in braces whether or not the inside fails, a fork that
fails leaves nothing, and a script in front of another one writes its text first.  A guarded
block that fails would stay open; no element writes one of its own.
-/

namespace CppModel

theorem bracesOf_contentOf (text : String) : bracesOf (contentOf text) = bracesOf text.toList := by
  rw [bracesOf, contentOf, List.filterMap_filter, bracesOf]
  apply List.filterMap_congr
  intro character _
  cases isLayout : Text.isLayout character with
  | false => simp
  | true =>
      have notBrace : ∀ step, Text.isLayout (braceOf step) = false := by
        rintro (_ | _) <;> rfl
      simp [brace?_eq_none notBrace isLayout]

theorem isBalanced_iff_content (text : String) : IsBalanced text ↔ IsNested (contentOf text) := by
  rw [isBalanced_iff_isNested, IsNested.congr (bracesOf_contentOf text)]

namespace Script

/-- On every sink, the script writes a balanced text. -/
def KeepsBalance (script : Script) : Prop :=
  ∀ sink, IsBalanced (script.textAt sink)

variable {script first second : Script}

theorem keepsBalance_iff : script.KeepsBalance ↔ IsNested (content script).1 := by
  constructor
  · intro balanced
    rw [← contentOf_textAt script default]
    exact (isBalanced_iff_content _).mp (balanced default)
  · intro nested sink
    rw [isBalanced_iff_content, contentOf_textAt]
    exact nested

/-! ## Content of scripts that are put together -/

theorem content_singleton (step : Step) : content [step] = step.content := by
  rw [content, content]
  rcases step.content with ⟨front, _ | reason⟩
  · simp only [List.append_nil]
  · rfl

/-- Behind a script that fails, another one shows nothing. -/
theorem content_append (first second : Script) :
    content (first ++ second) =
      match content first with
      | (front, none) => (front ++ (content second).1, (content second).2)
      | (front, some reason) => (front, some reason) := by
  induction first with
  | nil => rw [List.nil_append, content]; rfl
  | cons step rest inductionHypothesis =>
      rw [List.cons_append, content, content, inductionHypothesis]
      rcases step.content with ⟨front, _ | reason⟩
      · rcases content rest with ⟨middle, _ | reason⟩
        · simp only [List.append_assoc]
        · rfl
      · rfl

theorem content_ofLines (texts : List String) :
    content (ofLines texts) = (contentOf (String.join texts), none) := by
  induction texts with
  | nil => rw [ofLines, List.map_nil, content]; rfl
  | cons first rest inductionHypothesis =>
      rw [ofLines] at inductionHypothesis ⊢
      rw [List.map_cons, content, inductionHypothesis, Step.content, String.join_cons,
        contentOf_append]

/-! ## Balanced scripts -/

theorem keepsBalance_nil : KeepsBalance [] := by
  rw [keepsBalance_iff, content]
  exact .nil

theorem KeepsBalance.append (balanced : first.KeepsBalance) (secondBalanced : second.KeepsBalance) :
    KeepsBalance (first ++ second) := by
  rw [keepsBalance_iff] at *
  rw [content_append]
  generalize content first = shown at balanced
  obtain ⟨front, _ | reason⟩ := shown
  · exact IsNested.append balanced secondBalanced
  · exact balanced

theorem keepsBalance_line {text : String} (balanced : IsBalanced text) :
    KeepsBalance [.line text] := by
  rw [keepsBalance_iff, content_singleton]
  exact (isBalanced_iff_content text).mp balanced

theorem keepsBalance_label {text : String} (balanced : IsBalanced text) :
    KeepsBalance [.label text] := by
  rw [keepsBalance_iff, content_singleton]
  exact (isBalanced_iff_content _).mp (balanced.append (by decide))

/-- Lines are balanced if they are when they stand in a row. -/
theorem keepsBalance_ofLines_iff (texts : List String) :
    (ofLines texts).KeepsBalance ↔ IsBalanced (String.join texts) := by
  rw [keepsBalance_iff, content_ofLines, isBalanced_iff_content]

theorem keepsBalance_doc {text : String} (balanced : IsBalanced text) :
    KeepsBalance [.doc text] := by
  have sameBraces : bracesOf ((Documentation.dedent text).flatMap contentOf) =
      bracesOf text.toList := by
    rw [bracesOf_flatMap_congr fun line _ => bracesOf_contentOf line, bracesOf_dedent]
  rw [keepsBalance_iff, content_singleton]
  exact (IsNested.congr sameBraces).mpr ((isBalanced_iff_isNested text).mp balanced)

theorem keepsBalance_block {header closing : String} (headed : IsBalanced header)
    (closed : IsBalanced closing) (balanced : script.KeepsBalance) :
    KeepsBalance [.block header closing script] := by
  rw [keepsBalance_iff] at *
  rw [isBalanced_iff_content] at headed closed
  have around := (headed.append balanced.inBraces).append closed
  rw [content_singleton, Step.content]
  simpa using around

theorem KeepsBalance.fork (balanced : script.KeepsBalance) : KeepsBalance [.fork script true] := by
  rw [keepsBalance_iff] at *
  rw [content_singleton, Step.content]
  generalize content script = shown at balanced
  obtain ⟨inside, _ | reason⟩ := shown
  · exact balanced
  · exact .nil

theorem keepsBalance_blank : KeepsBalance [.blank] := by
  rw [keepsBalance_iff, content_singleton]
  exact .nil

end Script

end CppModel
