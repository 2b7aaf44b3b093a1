/-!
# Lines

A text is a sequence of lines, each ended by a line feed or by a carriage
return and a line feed.  A last line without a terminator counts as a line only
if it holds a character, and a carriage return that no line feed follows
belongs to its line.
-/

namespace CppModel.Text

/-- The line without the carriage return that belonged to its terminator. -/
def withoutReturn (line : List Char) : List Char :=
  if line.getLast? = some '\r' then line.dropLast else line

/-- Split off lines, where `current` is the line read so far, last character
first. -/
def linesFrom (current : List Char) : List Char → List (List Char)
  | [] => if current.isEmpty then [] else [current.reverse]
  | '\n' :: rest => withoutReturn current.reverse :: linesFrom [] rest
  | character :: rest => linesFrom (character :: current) rest

/-- The lines of a text, without their terminators. -/
def lines (text : List Char) : List (List Char) :=
  linesFrom [] text

@[simp]
theorem lines_nil : lines [] = [] :=
  rfl

end CppModel.Text
