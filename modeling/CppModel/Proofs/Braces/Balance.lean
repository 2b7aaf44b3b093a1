import CppModel.Rendering
import Mathlib.Combinatorics.Enumerative.DyckWord
import Mathlib.Data.List.Infix

/-!
# Balanced braces

A text is balanced if its opening and closing braces pair up: no part that it begins with
closes more braces than it opens, and the whole opens as many as it closes.  The braces of
such a text, taken by themselves, are a Dyck word, and the laws of balanced texts are those
of Dyck words: one text behind another is a sum, and a text in braces is a nested word.

Characters that are not braces do not count.  So a text may be cut, trimmed and put together
again, and stays balanced as long as its braces stay in order.
-/

namespace CppModel

/-- The braces pair up: every beginning of the text closes at most as many as it opens, and
the whole closes as many as it opens. -/
def IsBalanced (text : String) : Prop :=
  (∀ before ∈ text.toList.inits, before.count '\x7d' ≤ before.count '\x7b') ∧
    text.toList.count '\x7b' = text.toList.count '\x7d'

instance (text : String) : Decidable (IsBalanced text) :=
  inferInstanceAs (Decidable (_ ∧ _))

/-! ## Dyck words -/

/-- An opening brace is a step up, a closing one a step down. -/
def brace? (character : Char) : Option DyckStep :=
  if character = '\x7b' then some .U else if character = '\x7d' then some .D else none

/-- The braces of a text, as steps. -/
def bracesOf (text : List Char) : List DyckStep :=
  text.filterMap brace?

@[simp]
theorem bracesOf_nil : bracesOf [] = [] :=
  rfl

@[simp]
theorem bracesOf_append (first second : List Char) :
    bracesOf (first ++ second) = bracesOf first ++ bracesOf second :=
  List.filterMap_append

@[simp]
theorem bracesOf_cons (character : Char) (rest : List Char) :
    bracesOf (character :: rest) = (brace? character).toList ++ bracesOf rest := by
  rw [bracesOf, List.filterMap_cons]
  cases brace? character <;> rfl

/-- The braces of the text are a Dyck word. -/
def IsNested (text : List Char) : Prop :=
  ∃ word : DyckWord, word.toList = bracesOf text

/-- The brace that makes a step. -/
def braceOf : DyckStep → Char
  | .U => '\x7b'
  | .D => '\x7d'

theorem brace?_eq_some_iff (character : Char) (step : DyckStep) :
    brace? character = some step ↔ character = braceOf step := by
  by_cases opens : character = '\x7b'
  · cases step <;> simp [brace?, braceOf, opens]
  · by_cases closes : character = '\x7d' <;> cases step <;>
      simp [brace?, braceOf, opens, closes]

/-- A class of characters that the braces do not belong to. -/
theorem brace?_eq_none {isOther : Char → Bool} (other : ∀ step, isOther (braceOf step) = false)
    {character : Char} (isIn : isOther character = true) : brace? character = none := by
  cases isBrace : brace? character with
  | none => rfl
  | some step =>
      rw [(brace?_eq_some_iff character step).mp isBrace, other] at isIn
      cases isIn

theorem count_bracesOf (step : DyckStep) (text : List Char) :
    (bracesOf text).count step = text.count (braceOf step) := by
  rw [bracesOf, List.count, List.countP_filterMap, List.count]
  apply List.countP_congr
  intro character _
  rw [beq_iff_eq, ← brace?_eq_some_iff]
  cases brace? character <;> simp

/-- Balance of a text, counted over its characters, is balance of its braces. -/
theorem isBalanced_iff_isNested (text : String) : IsBalanced text ↔ IsNested text.toList := by
  constructor
  · rintro ⟨beginnings, whole⟩
    have counts : (bracesOf text.toList).count .U = (bracesOf text.toList).count .D :=
      (count_bracesOf .U _).trans (whole.trans (count_bracesOf .D _).symm)
    refine ⟨⟨bracesOf text.toList, counts, fun count => ?_⟩, rfl⟩
    -- The first braces are those of some beginning of the text.
    obtain ⟨before, after, split, isBefore, _⟩ :=
      List.filterMap_eq_append_iff.mp ((bracesOf text.toList).take_append_drop count).symm
    have isBeginning : before ∈ text.toList.inits := (List.mem_inits _ _).mpr ⟨after, split.symm⟩
    have few := beginnings before isBeginning
    rw [← isBefore]
    exact (count_bracesOf .D before).trans_le (few.trans_eq (count_bracesOf .U before).symm)
  · rintro ⟨word, spelled⟩
    have counts := word.count_U_eq_count_D
    rw [spelled, count_bracesOf, count_bracesOf] at counts
    apply And.intro _ counts
    intro before isBeginning
    obtain ⟨after, split⟩ := (List.mem_inits _ _).mp isBeginning
    have few := word.count_D_le_count_U (bracesOf before).length
    rw [spelled, ← split, bracesOf_append, List.take_left, count_bracesOf, count_bracesOf] at few
    exact few

namespace IsNested

variable {first second text : List Char}

theorem nil : IsNested [] :=
  ⟨0, rfl⟩

theorem append (nested : IsNested first) (secondNested : IsNested second) :
    IsNested (first ++ second) := by
  obtain ⟨word, spelled⟩ := nested
  obtain ⟨other, otherSpelled⟩ := secondNested
  use word + other
  rw [bracesOf_append, ← spelled, ← otherSpelled]
  rfl

/-- A nested text in braces is nested. -/
theorem inBraces (nested : IsNested text) : IsNested ('\x7b' :: text ++ ['\x7d']) := by
  obtain ⟨word, spelled⟩ := nested
  use word.nest
  rw [List.cons_append, bracesOf_cons, bracesOf_append, ← spelled]
  rfl

/-- Only the braces count. -/
theorem congr (same : bracesOf first = bracesOf second) : IsNested first ↔ IsNested second := by
  rw [IsNested, IsNested, same]

end IsNested

/-! ## Texts -/

namespace IsBalanced

variable {first second text : String}

theorem append (balanced : IsBalanced first) (secondBalanced : IsBalanced second) :
    IsBalanced (first ++ second) := by
  rw [isBalanced_iff_isNested] at *
  rw [String.toList_append]
  exact balanced.append secondBalanced

theorem inBraces (balanced : IsBalanced text) : IsBalanced ("\x7b" ++ text ++ "\x7d") := by
  rw [isBalanced_iff_isNested] at *
  rw [String.toList_append, String.toList_append]
  exact balanced.inBraces

end IsBalanced

/-- A text without braces is balanced. -/
theorem isBalanced_of_bracesOf_eq_nil {text : String} (noBraces : bracesOf text.toList = []) :
    IsBalanced text := by
  rw [isBalanced_iff_isNested]
  have sameBraces : bracesOf text.toList = bracesOf [] := noBraces
  exact (IsNested.congr sameBraces).mpr .nil

end CppModel
