import CppModel.Proofs.Braces.Balance
import CppModel.Proofs.Documentation.Dedent

/-!
# The braces of documentation

Documentation loses characters on its way into a text: line terminators, blank lines around
it, the indentation that its lines share, and blanks at the end of lines.  None of them is a
brace, so the lines that are written have the braces of the text that was given, in the same
order.
-/

namespace CppModel

open Text Documentation

/-! ## Blanks -/

theorem brace?_of_isBlank {character : Char} (blank : isBlank character = true) :
    brace? character = none := by
  have notBrace : ∀ step, isBlank (braceOf step) = false := by
    rintro (_ | _) <;> decide
  exact brace?_eq_none notBrace blank

theorem bracesOf_of_isBlankLine (line : List Char) (blank : isBlankLine line = true) :
    bracesOf line = [] :=
  List.filterMap_eq_nil_iff.mpr fun character listed =>
    brace?_of_isBlank (List.all_eq_true.mp blank character listed)

/-- Between a line and what is written for it there are only blanks. -/
theorem bracesOf_of_isWrittenAs {size : Nat} {line body : List Char}
    (written : IsWrittenAs size line body) : bracesOf body = bracesOf line := by
  rw [IsWrittenAs] at written
  split at written
  case isTrue blank => rw [written, bracesOf_of_isBlankLine line blank, bracesOf_nil]
  case isFalse =>
    obtain ⟨front, back, rfl, frontBlank, backBlank, _⟩ := written
    rw [bracesOf_append, bracesOf_append, bracesOf_of_isBlankLine front frontBlank,
      bracesOf_of_isBlankLine back backBlank, List.nil_append, List.append_nil]

theorem bracesOf_trimBlankLines (lines : List (List Char)) :
    bracesOf (trimBlankLines lines).flatten = bracesOf lines.flatten := by
  have blank : ∀ around : List (List Char), (∀ line ∈ around, isBlankLine line = true) →
      bracesOf around.flatten = [] := fun around aroundBlank =>
    bracesOf_of_isBlankLine _ (List.all_flatten.trans (List.all_eq_true.mpr aroundBlank))
  obtain ⟨before, after, split, beforeBlank, afterBlank⟩ := exists_around_trimBlankLines lines
  conv_rhs => rw [split]
  rw [List.flatten_append, List.flatten_append, bracesOf_append, bracesOf_append,
    blank before beforeBlank, blank after afterBlank, List.nil_append, List.append_nil]

/-! ## Lines -/

/-- A carriage return at the end of a line is no brace. -/
theorem bracesOf_withoutReturn (line : List Char) :
    bracesOf (withoutReturn line) = bracesOf line := by
  rw [withoutReturn]
  by_cases returned : line.getLast? = some '\r'
  · obtain ⟨front, rfl⟩ := List.getLast?_eq_some_iff.mp returned
    rw [if_pos returned, List.dropLast_concat, bracesOf_append]
    exact (List.append_nil _).symm
  · rw [if_neg returned]

/-- The terminators between lines are no braces. -/
theorem bracesOf_linesFrom (current rest : List Char) :
    bracesOf (linesFrom current rest).flatten = bracesOf (current.reverse ++ rest) := by
  fun_induction linesFrom current rest with
  | case1 current isEmpty =>
      rw [List.isEmpty_iff.mp isEmpty]
      rfl
  | case2 current notEmpty => simp
  | case3 current rest inductionHypothesis =>
      rw [List.flatten_cons, bracesOf_append, bracesOf_withoutReturn, inductionHypothesis,
        bracesOf_append current.reverse, bracesOf_cons]
      rfl
  | case4 current character rest notEnd inductionHypothesis =>
      rw [inductionHypothesis, List.reverse_cons, List.append_assoc, List.singleton_append]

/-! ## Documentation -/

theorem bracesOf_flatMap_congr {Item : Type} {items : List Item} {first second : Item → List Char}
    (same : ∀ item ∈ items, bracesOf (first item) = bracesOf (second item)) :
    bracesOf (items.flatMap first) = bracesOf (items.flatMap second) := by
  rw [bracesOf, bracesOf, List.filterMap_flatMap, List.filterMap_flatMap]
  exact List.flatMap_congr same

/-- Documentation is written with the braces that it was given with. -/
theorem bracesOf_dedent (text : String) :
    bracesOf ((dedent text).flatMap String.toList) = bracesOf text.toList := by
  have written : (dedent text).flatMap String.toList =
      (trimBlankLines (lines text.toList)).flatMap
        (dedentLine (sharedIndentation (trimBlankLines (lines text.toList)))) := by
    rw [dedent, List.flatMap_map, List.flatMap_map]
    simp only [String.toList_ofList]
  rw [written]
  calc bracesOf _
    _ = bracesOf ((trimBlankLines (lines text.toList)).flatMap id) :=
      bracesOf_flatMap_congr fun line listed =>
        bracesOf_of_isWrittenAs (isWrittenAs_of_mem_trimBlankLines _ line listed)
    _ = bracesOf (trimBlankLines (lines text.toList)).flatten := by rw [List.flatMap_id]
    _ = bracesOf (lines text.toList).flatten := bracesOf_trimBlankLines _
    _ = bracesOf text.toList := bracesOf_linesFrom [] text.toList

end CppModel
