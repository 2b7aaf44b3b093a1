import CppModel.Text.Blank
import CppModel.Text.Lines

/-!
# Texts line by line

Every text is a sequence of lines that end in a line feed, and of a last line without one.
What holds of all texts can be shown along this sequence, and a text can be changed line by
line.

Lines are read without their terminators, so a carriage return in front of a line feed is lost,
while one in any other place belongs to its line.
-/

namespace CppModel.Text

/-- The text with another one in place of each line.  What follows the last line feed is a
line, too, also if it is empty. -/
def mapLines (change : List Char → List Char) (text : List Char) : List Char :=
  ['\n'].intercalate ((text.splitOn '\n').map change)

/-- The line behind a margin.  The empty line has none. -/
def indentLine (margin line : List Char) : List Char :=
  if line.isEmpty then [] else margin ++ line

/-- The text of lines that are each ended by a line feed. -/
def joinLines (lines : List (List Char)) : List Char :=
  lines.flatMap (· ++ ['\n'])

/-- What holds of a line without a terminator, and of every text as soon as it holds of what
follows the first line feed, holds of all texts. -/
@[elab_as_elim]
theorem induction_on_lines {motive : List Char → Prop} (text : List Char)
    (last : ∀ line, '\n' ∉ line → motive line)
    (line : ∀ line rest, '\n' ∉ line → motive rest → motive (line ++ '\n' :: rest)) :
    motive text := by
  -- The line is read from the back, so the part in front of its line feed is arbitrary.
  have behind : ∀ front, '\n' ∉ front → motive (front ++ text) := by
    induction text with
    | nil =>
        intro front oneLine
        rw [List.append_nil]
        exact last front oneLine
    | cons character rest inductionHypothesis =>
        intro front oneLine
        by_cases isEnd : character = '\n'
        · subst isEnd
          exact line front rest oneLine (inductionHypothesis [] List.not_mem_nil)
        · rw [List.append_cons]
          apply inductionHypothesis
          simp [oneLine, Ne.symm isEnd]
  exact behind [] List.not_mem_nil

/-! ## Changing lines -/

variable {line rest : List Char}

theorem mapLines_of_not_mem (change : List Char → List Char) (oneLine : '\n' ∉ line) :
    mapLines change line = change line := by
  rw [mapLines, List.splitOn_eq_singleton oneLine, List.map_singleton,
    List.intercalate_singleton]

theorem mapLines_line (change : List Char → List Char) (oneLine : '\n' ∉ line)
    (rest : List Char) :
    mapLines change (line ++ '\n' :: rest) = change line ++ '\n' :: mapLines change rest := by
  rw [mapLines, List.splitOn_append_cons_self_of_not_mem oneLine, List.map_cons,
    List.intercalate_cons_of_ne_nil (by simp), List.append_assoc, List.singleton_append, mapLines]

/-- Lines that are joined are changed one by one, if the change leaves the empty line alone. -/
theorem mapLines_joinLines {change : List Char → List Char} (keepsEmpty : change [] = [])
    {texts : List (List Char)} (oneLine : ∀ line ∈ texts, '\n' ∉ line) :
    mapLines change (joinLines texts) = joinLines (texts.map change) := by
  induction texts with
  | nil =>
      rw [List.map_nil, joinLines, List.flatMap_nil, mapLines_of_not_mem _ List.not_mem_nil,
        keepsEmpty]
  | cons first others inductionHypothesis =>
      obtain ⟨firstOneLine, othersOneLine⟩ := List.forall_mem_cons.mp oneLine
      rw [joinLines, List.flatMap_cons, List.append_assoc, List.singleton_append,
        mapLines_line change firstOneLine, ← joinLines, inductionHypothesis othersOneLine,
        List.map_cons, joinLines, joinLines, List.flatMap_cons, List.append_assoc,
        List.singleton_append]

/-- The pieces of a changed text are the changed pieces, if no change brings in a line feed. -/
theorem splitOn_mapLines {change : List Char → List Char}
    (keeps : ∀ line, '\n' ∉ line → '\n' ∉ change line) (text : List Char) :
    (mapLines change text).splitOn '\n' = (text.splitOn '\n').map change := by
  induction text using induction_on_lines with
  | last line oneLine =>
      rw [mapLines_of_not_mem change oneLine, List.splitOn_eq_singleton oneLine,
        List.splitOn_eq_singleton (keeps line oneLine), List.map_singleton]
  | line line rest oneLine inductionHypothesis =>
      rw [mapLines_line change oneLine, List.splitOn_append_cons_self_of_not_mem oneLine,
        List.splitOn_append_cons_self_of_not_mem (keeps line oneLine), inductionHypothesis,
        List.map_cons]

/-! ## Margins -/

theorem newline_not_mem_indentLine {margin : List Char} (noNewline : '\n' ∉ margin)
    (oneLine : '\n' ∉ line) : '\n' ∉ indentLine margin line := by
  rw [indentLine]
  split
  · exact List.not_mem_nil
  · rw [List.mem_append, not_or]
    exact ⟨noNewline, oneLine⟩

theorem getLast?_indentLine (margin line : List Char) :
    (indentLine margin line).getLast? = line.getLast? := by
  cases line with
  | nil => rfl
  | cons character line =>
      rw [indentLine, if_neg (by simp), List.getLast?_append, Option.or_of_isSome (by simp)]

theorem indentLine_of_ne_nil (margin : List Char) (nonempty : line ≠ []) :
    indentLine margin line = margin ++ line :=
  if_neg (mt List.isEmpty_iff.mp nonempty)

theorem indentLine_nil_left (line : List Char) : indentLine [] line = line := by
  cases line <;> rfl

theorem indentLine_indentLine (outer inner line : List Char) :
    indentLine outer (indentLine inner line) = indentLine (outer ++ inner) line := by
  cases line with
  | nil => rfl
  | cons character line =>
      rw [indentLine_of_ne_nil inner (by simp), indentLine_of_ne_nil outer (by simp),
        indentLine_of_ne_nil _ (by simp), List.append_assoc]

/-! ## Reading lines -/

theorem linesFrom_line (current : List Char) (oneLine : '\n' ∉ line) (rest : List Char) :
    linesFrom current (line ++ '\n' :: rest) =
      withoutReturn (current.reverse ++ line) :: lines rest := by
  induction line generalizing current with
  | nil => rw [List.nil_append, linesFrom, List.append_nil, lines]
  | cons character others inductionHypothesis =>
      obtain ⟨notEnd, restOneLine⟩ := not_or.mp (mt List.mem_cons.mpr oneLine)
      rw [List.cons_append, linesFrom.eq_3 _ _ _ (Ne.symm notEnd),
        inductionHypothesis _ restOneLine, List.reverse_cons, List.append_assoc,
        List.singleton_append]

theorem lines_line (oneLine : '\n' ∉ line) (rest : List Char) :
    lines (line ++ '\n' :: rest) = withoutReturn line :: lines rest :=
  linesFrom_line [] oneLine rest

theorem linesFrom_of_not_mem (current : List Char) (oneLine : '\n' ∉ line) :
    linesFrom current line =
      if (current.reverse ++ line).isEmpty then [] else [current.reverse ++ line] := by
  induction line generalizing current with
  | nil => simp [linesFrom]
  | cons character others inductionHypothesis =>
      obtain ⟨notEnd, restOneLine⟩ := not_or.mp (mt List.mem_cons.mpr oneLine)
      rw [linesFrom.eq_3 _ _ _ (Ne.symm notEnd), inductionHypothesis _ restOneLine,
        List.reverse_cons, List.append_assoc, List.singleton_append]

/-- Behind the last line feed there is a line only if there is a character. -/
theorem lines_of_not_mem (oneLine : '\n' ∉ line) :
    lines line = if line.isEmpty then [] else [line] :=
  linesFrom_of_not_mem [] oneLine

/-- The lines of a text whose line feeds stand between the pieces. -/
def linesOfPieces : List (List Char) → List (List Char)
  | [] => []
  | [last] => if last.isEmpty then [] else [last]
  | piece :: next :: rest => withoutReturn piece :: linesOfPieces (next :: rest)

theorem lines_eq (text : List Char) : lines text = linesOfPieces (text.splitOn '\n') := by
  induction text using induction_on_lines with
  | last line oneLine =>
      rw [lines_of_not_mem oneLine, List.splitOn_eq_singleton oneLine, linesOfPieces]
  | line line rest oneLine inductionHypothesis =>
      rw [lines_line oneLine, List.splitOn_append_cons_self_of_not_mem oneLine, inductionHypothesis]
      cases pieces : rest.splitOn '\n' with
      | nil => exact absurd pieces (List.splitOn_ne_nil '\n' rest)
      | cons next others => rw [linesOfPieces]

theorem withoutReturn_isPrefix (line : List Char) : withoutReturn line <+: line := by
  rw [withoutReturn]
  split
  · exact List.dropLast_prefix line
  · exact List.prefix_refl line

/-- In front of a line that is not empty, nothing changes where the line ends. -/
theorem withoutReturn_append (front : List Char) (nonempty : line ≠ []) :
    withoutReturn (front ++ line) = front ++ withoutReturn line := by
  have sameEnd : (front ++ line).getLast? = line.getLast? := by
    rw [List.getLast?_append, Option.or_of_isSome (by simpa using nonempty)]
  rw [withoutReturn, withoutReturn, sameEnd]
  split
  · rw [List.dropLast_append_of_ne_nil nonempty]
  · rfl

theorem newline_not_mem_lines (text : List Char) : ∀ line ∈ lines text, '\n' ∉ line := by
  induction text using induction_on_lines with
  | last line oneLine =>
      rw [lines_of_not_mem oneLine]
      split
      · exact List.forall_mem_nil _
      · exact List.forall_mem_singleton.mpr oneLine
  | line line rest oneLine inductionHypothesis =>
      rw [lines_line oneLine, List.forall_mem_cons]
      exact ⟨fun listed => oneLine ((withoutReturn_isPrefix line).mem listed), inductionHypothesis⟩

/-- Lines that are each ended by a line feed are read back, if none of them ends in a carriage
return. -/
theorem lines_joinLines {texts : List (List Char)} (oneLine : ∀ line ∈ texts, '\n' ∉ line)
    (noReturn : ∀ line ∈ texts, line.getLast? ≠ some '\r') :
    lines (joinLines texts) = texts := by
  induction texts with
  | nil => rfl
  | cons first others inductionHypothesis =>
      obtain ⟨firstOneLine, othersOneLine⟩ := List.forall_mem_cons.mp oneLine
      obtain ⟨firstNoReturn, othersNoReturn⟩ := List.forall_mem_cons.mp noReturn
      rw [joinLines, List.flatMap_cons, List.append_assoc, List.singleton_append,
        lines_line firstOneLine, ← joinLines, inductionHypothesis othersOneLine othersNoReturn,
        withoutReturn, if_neg firstNoReturn]

end CppModel.Text
