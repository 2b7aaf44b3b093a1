/-!
# Readers of characters

A reader takes characters from the front of a text and gives a result, or
refuses.  Readers that repeat a step carry a bound on the number of steps; the
length of the text is always enough, because every step takes at least one
character.
-/

namespace CppModel.Toml

/-- A step that takes characters from the front of a text. -/
abbrev Reader := StateT (List Char) Option

namespace Reader

/-- Refuse the text. -/
def refuse {Result : Type} : Reader Result := fun _ => none

/-- The next character, which stays in front. -/
def peek : Reader (Option Char) := fun text => some (text.head?, text)

/-- Take the next character. -/
def next : Reader Char
  | [] => none
  | character :: rest => some (character, rest)

/-- Take a fixed number of characters. -/
def take (count : Nat) : Reader (List Char) := fun text =>
  if count ≤ text.length then some (text.take count, text.drop count) else none

/-- Take all characters in front that belong to a class. -/
def takeWhile (belongs : Char → Bool) : Reader (List Char) := fun text =>
  some (text.takeWhile belongs, text.dropWhile belongs)

/-- Take a word if it is in front. -/
def accept (word : String) : Reader Bool := fun text =>
  if word.toList.isPrefixOf text then some (true, text.drop word.toList.length)
  else some (false, text)

/-- Take a word that has to be in front. -/
def expect (word : String) : Reader Unit := do
  if ← accept word then pure () else refuse

/-- Whether nothing is left. -/
def atEnd : Reader Bool := fun text => some (text.isEmpty, text)

/-- A number of steps that suffices for what is left. -/
def bound : Reader Nat := fun text => some (text.length + 1, text)

/-! ## Blanks, comments and line ends -/

/-- The blanks inside a line. -/
def isSpace (character : Char) : Bool :=
  character == ' ' || character == '\t'

/-- The characters of comments and of strings on one line: no control character
but the tab. -/
def isPlain (character : Char) : Bool :=
  character == '\t' || (0x20 ≤ character.toNat && character.toNat ≠ 0x7F)

/-- Skip the blanks inside a line. -/
def skipSpaces : Reader Unit := do
  let _ ← takeWhile isSpace
  pure ()

/-- The text behind blanks, line ends and comments, where `isComment` tells
whether it begins inside a comment.  A carriage return counts only as part of a
line end. -/
def afterGap (isComment : Bool) : List Char → Option (List Char)
  | [] => some []
  | '\n' :: rest => afterGap false rest
  | '\r' :: '\n' :: rest => afterGap false rest
  | character :: rest =>
      if isComment then if isPlain character then afterGap true rest else none
      else if isSpace character then afterGap false rest
      else if character = '#' then afterGap true rest
      else some (character :: rest)

/-- Skip blanks, line ends and comments. -/
def skipGap : Reader Unit := fun text => (afterGap false text).map ((), ·)

/-- Take the end of a line, which is also the end of the text. -/
def lineEnd : Reader Unit := do
  skipSpaces
  if ← accept "#" then
    let _ ← takeWhile isPlain
  if ← atEnd then pure ()
  else if ← accept "\n" then pure ()
  else expect "\r\n"

end Reader

end CppModel.Toml
