import CppModel.Proofs.Text.Lines
import CppModel.Sink.Documentation
import Mathlib.Data.List.DropRight

/-!
# Blanks around a line

What stands in front of the first character of a line that shows is its indentation, and it is
measured in bytes.  Blanks that are put in front of the line add their bytes to it, and as many
bytes as are dropped from it are blanks.
-/

namespace CppModel.Documentation

open Text

variable {front line rest : List Char} {size : Nat}

/-! ## Blanks in front of a line -/

theorem isBlankLine_eq_false_of_mem {character : Char} (listed : character ∈ line)
    (shows : isBlank character = false) : isBlankLine line = false :=
  List.all_eq_false.mpr ⟨character, listed, Bool.not_eq_true _ ▸ shows⟩

theorem isBlankLine_append (front line : List Char) :
    isBlankLine (front ++ line) = (isBlankLine front && isBlankLine line) :=
  List.all_append

theorem trimStart_append (blank : isBlankLine front = true) (line : List Char) :
    trimStart (front ++ line) = trimStart line :=
  List.dropWhile_append_of_pos (List.all_eq_true.mp blank)

theorem byteSize_append (front line : List Char) :
    byteSize (front ++ line) = byteSize front + byteSize line := by
  induction front with
  | nil => rw [List.nil_append, byteSize, Nat.zero_add]
  | cons character front inductionHypothesis =>
      rw [List.cons_append, byteSize, byteSize, inductionHypothesis, Nat.add_assoc]

theorem indentation_append (blank : isBlankLine front = true) (line : List Char) :
    indentation (front ++ line) = byteSize front + indentation line := by
  rw [indentation, List.takeWhile_append_of_pos (List.all_eq_true.mp blank), byteSize_append,
    indentation]

theorem dropBytes?_zero (line : List Char) : dropBytes? line 0 = some line := by
  cases line <;> rfl

theorem dropBytes?_append (front line : List Char) (size : Nat) :
    dropBytes? (front ++ line) (byteSize front + size) = dropBytes? line size := by
  induction front with
  | nil => rw [List.nil_append, byteSize, Nat.zero_add]
  | cons character front inductionHypothesis =>
      have positive := character.utf8Size_pos
      rw [List.cons_append, dropBytes?, byteSize, if_neg (by omega), if_pos (by omega),
        Nat.add_assoc, Nat.add_sub_cancel_left, inductionHypothesis]

theorem dedentLine_append (blank : isBlankLine front = true) (shows : isBlankLine line = false)
    (size : Nat) : dedentLine (byteSize front + size) (front ++ line) = dedentLine size line := by
  rw [dedentLine, dedentLine, isBlankLine_append, blank, Bool.true_and, dropBytes?_append,
    trimStart_append blank, shows]

/-- What is dropped takes as many bytes as it should. -/
theorem exists_front_of_dropBytes? (dropped : dropBytes? line size = some rest) :
    ∃ front, line = front ++ rest ∧ byteSize front = size := by
  induction line generalizing size with
  | nil =>
      rw [dropBytes?] at dropped
      split at dropped
      case isTrue none =>
        cases dropped
        exact ⟨[], rfl, none.symm⟩
      case isFalse => cases dropped
  | cons character others inductionHypothesis =>
      rw [dropBytes?] at dropped
      split at dropped
      case isTrue none =>
        cases dropped
        exact ⟨[], rfl, none.symm⟩
      case isFalse =>
        split at dropped
        case isTrue fits =>
          obtain ⟨front, rfl, measured⟩ := inductionHypothesis dropped
          exact ⟨character :: front, rfl, by rw [byteSize, measured, Nat.add_sub_cancel' fits]⟩
        case isFalse => cases dropped

/-- Within the indentation of a line there are only blanks. -/
theorem isBlankLine_of_byteSize_le (within : byteSize front ≤ indentation (front ++ rest)) :
    isBlankLine front = true := by
  induction front with
  | nil => rfl
  | cons character front inductionHypothesis =>
      have positive := character.utf8Size_pos
      rw [List.cons_append, indentation] at within
      cases blank : isBlank character with
      | true =>
          rw [List.takeWhile_cons_of_pos blank] at within
          rw [isBlankLine_cons, blank, Bool.true_and]
          exact inductionHypothesis (Nat.add_le_add_iff_left.mp within)
      | false =>
          rw [List.takeWhile_cons_of_neg (Bool.not_eq_true _ ▸ blank)] at within
          exact absurd (Nat.le_zero.mp within) (by rw [byteSize]; omega)

/-! ## Blanks at the end of a line -/

theorem exists_back_of_trimEnd (line : List Char) :
    ∃ back, line = trimEnd line ++ back ∧ isBlankLine back = true :=
  ⟨line.rtakeWhile isBlank, List.rdropWhile_append_rtakeWhile.symm,
    List.all_eq_true.mpr fun _ listed => List.mem_rtakeWhile_imp listed⟩

theorem trimEnd_ne_nil (shows : isBlankLine line = false) : trimEnd line ≠ [] := by
  intro empty
  have blank := List.all_eq_true.mpr (List.rdropWhile_eq_nil_iff.mp empty)
  exact Bool.false_ne_true (shows.symm.trans blank)

/-- The line without blanks at its end ends in a character that shows. -/
theorem exists_last_of_trimEnd (shows : isBlankLine line = false) :
    ∃ last ∈ (trimEnd line).getLast?, isBlank last = false := by
  have nonempty := trimEnd_ne_nil shows
  exact ⟨(trimEnd line).getLast nonempty, List.getLast?_eq_some_getLast nonempty,
    Bool.not_eq_true _ ▸ List.rdropWhile_last_not isBlank line nonempty⟩

theorem trimEnd_eq_self (ends : ∃ last ∈ line.getLast?, isBlank last = false) :
    trimEnd line = line := by
  obtain ⟨last, isLast, shows⟩ := ends
  refine List.rdropWhile_eq_self_iff.mpr fun nonempty => ?_
  rw [List.getLast?_eq_some_getLast nonempty, Option.mem_some_iff] at isLast
  rw [isLast, shows]
  exact Bool.false_ne_true

theorem head?_trimEnd (shows : isBlankLine line = false) :
    (trimEnd line).head? = line.head? := by
  obtain ⟨back, split, _⟩ := exists_back_of_trimEnd line
  conv_rhs => rw [split]
  rw [List.head?_append_of_ne_nil _ (trimEnd_ne_nil shows)]

theorem exists_front_of_trimStart (line : List Char) :
    ∃ front, line = front ++ trimStart line ∧ isBlankLine front = true ∧
      byteSize front = indentation line :=
  ⟨line.takeWhile isBlank, List.takeWhile_append_dropWhile.symm, List.all_takeWhile, rfl⟩

/-- The line without its indentation begins with a character that shows. -/
theorem exists_head_of_trimStart (shows : isBlankLine line = false) :
    ∃ first ∈ (trimStart line).head?, isBlank first = false := by
  have known := List.head?_dropWhile_not isBlank line
  cases trimmed : line.dropWhile isBlank with
  | nil =>
      have blank := trimStart_eq_nil_iff.mp trimmed
      exact absurd (shows.symm.trans blank) Bool.false_ne_true
  | cons first rest =>
      rw [trimmed] at known
      exact ⟨first, by rw [trimStart, trimmed]; rfl, known⟩

end CppModel.Documentation
