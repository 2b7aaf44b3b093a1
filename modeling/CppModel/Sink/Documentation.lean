import CppModel.Sink.Basic
import CppModel.Text.Blank
import CppModel.Text.Lines

/-!
# Documentation comments

Documentation is written as given, line by line, after two adjustments that let
it come from an indented literal: blank lines around it are dropped, and the
indentation that all its lines share is removed.

The shared indentation is measured in bytes of UTF-8.  A line in which that
many bytes end inside a character has other blanks than the line that set the
measure, and it loses all of its own indentation instead.
-/

namespace CppModel

namespace Documentation

open Text

/-- The lines from the first to the last one that is not blank. -/
def trimBlankLines (lines : List (List Char)) : List (List Char) :=
  ((lines.dropWhile isBlankLine).reverse.dropWhile isBlankLine).reverse

/-- The number of bytes that a text takes in UTF-8. -/
def byteSize : List Char → Nat
  | [] => 0
  | character :: rest => character.utf8Size + byteSize rest

/-- The blanks in front of a line, in bytes. -/
def indentation (line : List Char) : Nat :=
  byteSize (line.takeWhile isBlank)

/-- The least indentation among the lines that are not blank. -/
def sharedIndentation (lines : List (List Char)) : Nat :=
  (((lines.filter (! isBlankLine ·)).map indentation).min?).getD 0

/-- The line behind its first `size` bytes, if a character ends there. -/
def dropBytes? (line : List Char) (size : Nat) : Option (List Char) :=
  match line with
  | [] => if size = 0 then some [] else none
  | character :: rest =>
      if size = 0 then some (character :: rest)
      else if character.utf8Size ≤ size then dropBytes? rest (size - character.utf8Size)
      else none

/-- A line without `size` bytes of indentation and without blanks at its end.
A blank line becomes the empty line. -/
def dedentLine (size : Nat) (line : List Char) : List Char :=
  if isBlankLine line then []
  else trimEnd ((dropBytes? line size).getD (trimStart line))

/-- The lines of a documentation text as they are written, where the empty line
stands for a blank one. -/
def dedent (text : String) : List String :=
  let kept := trimBlankLines (lines text.toList)
  (kept.map (dedentLine (sharedIndentation kept))).map String.ofList

end Documentation

namespace Sink

/-- Write one line of documentation, where a blank line has no margin. -/
def docLine (sink : Sink) (text : String) : Sink :=
  if text.isEmpty then sink.blank else sink.line text

/-- Write documentation at the current level. -/
def doc (sink : Sink) (text : String) : Sink :=
  (Documentation.dedent text).foldl docLine sink

end Sink

end CppModel
