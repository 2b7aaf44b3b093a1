import CppModel.Toml.Reader

/-!
# Strings

The four forms of strings: between double quotes with escapes, or between
single quotes as they stand, each on one line or, between three quotes, on
several.  A line end right behind three opening quotes does not belong to the
string, and up to two quotes in front of three closing ones do.
-/

namespace CppModel.Toml.Text

open Reader

/-- The value of a hexadecimal digit. -/
def hexDigit? (character : Char) : Option Nat :=
  let code := character.toNat
  if '0' ≤ character ∧ character ≤ '9' then some (code - '0'.toNat)
  else if 'a' ≤ character ∧ character ≤ 'f' then some (code - 'a'.toNat + 10)
  else if 'A' ≤ character ∧ character ≤ 'F' then some (code - 'A'.toNat + 10)
  else none

/-- The value of hexadecimal digits. -/
def hexNumber? (digits : List Char) : Option Nat :=
  digits.foldlM (fun value character => (hexDigit? character).map (value * 16 + ·)) 0

/-- A character given by its code point in `count` hexadecimal digits. -/
def codePoint (count : Nat) : Reader Char := do
  let digits ← take count
  match hexNumber? digits with
  | some code => if code.isValidChar then pure (Char.ofNat code) else refuse
  | none => refuse

/-- The character that is written behind a backslash. -/
def escape : Reader Char := do
  match ← next with
  | 'b' => pure '\x08'
  | 't' => pure '\t'
  | 'n' => pure '\n'
  | 'f' => pure '\x0c'
  | 'r' => pure '\r'
  | 'e' => pure '\x1b'
  | '"' => pure '"'
  | '\\' => pure '\\'
  | 'x' => codePoint 2
  | 'u' => codePoint 4
  | 'U' => codePoint 8
  | _ => refuse

/-- The rest of a string on one line, up to its double quote. -/
def basicRest : Nat → Reader (List Char)
  | 0 => refuse
  | bound + 1 => do
      match ← next with
      | '"' => pure []
      | '\\' =>
          let character ← escape
          let rest ← basicRest bound
          pure (character :: rest)
      | character =>
          if isPlain character then
            let rest ← basicRest bound
            pure (character :: rest)
          else refuse

/-- The rest of a string on one line, up to its single quote. -/
def literalRest : Reader (List Char) := do
  let content ← takeWhile fun character => character != '\'' && isPlain character
  expect "'"
  pure content

/-- The text behind blanks and line ends. -/
def afterBlankLines : List Char → List Char
  | '\n' :: rest => afterBlankLines rest
  | '\r' :: '\n' :: rest => afterBlankLines rest
  | character :: rest => if isSpace character then afterBlankLines rest else character :: rest
  | [] => []

/-- Take the blanks and line ends that a backslash at the end of a line removes,
if the line ends here. -/
def continuation : Reader Bool := fun text =>
  let rest := text.dropWhile isSpace
  if ['\n'].isPrefixOf rest || ['\r', '\n'].isPrefixOf rest then
    some (true, afterBlankLines rest)
  else some (false, text)

/-- Up to two quotes behind three closing ones; they end the string. -/
def trailingQuotes (quote : Char) : Reader (List Char) := do
  if ← accept (String.ofList [quote, quote]) then pure [quote, quote]
  else if ← accept (String.ofList [quote]) then pure [quote]
  else pure []

/-- A line end or a plain character of a string on several lines. -/
def multilineChars : Reader (List Char) := do
  match ← next with
  | '\n' => pure ['\n']
  | '\r' =>
      expect "\n"
      pure ['\r', '\n']
  | character => if isPlain character then pure [character] else refuse

/-- The rest of a string on several lines, up to three double quotes. -/
def multilineBasicRest : Nat → Reader (List Char)
  | 0 => refuse
  | bound + 1 => do
      if ← accept "\"\"\"" then trailingQuotes '"'
      else if ← accept "\\" then
        if ← continuation then multilineBasicRest bound
        else
          let character ← escape
          let rest ← multilineBasicRest bound
          pure (character :: rest)
      else
        let characters ← multilineChars
        let rest ← multilineBasicRest bound
        pure (characters ++ rest)

/-- The rest of a string on several lines, up to three single quotes. -/
def multilineLiteralRest : Nat → Reader (List Char)
  | 0 => refuse
  | bound + 1 => do
      if ← accept "'''" then trailingQuotes '\''
      else
        let characters ← multilineChars
        let rest ← multilineLiteralRest bound
        pure (characters ++ rest)

/-- Take a line end, if there is one. -/
def firstLineEnd : Reader Unit := do
  if ← accept "\n" then pure ()
  else
    let _ ← accept "\r\n"
    pure ()

/-- A string on one line, if one begins here. -/
def line? : Reader (Option String) := do
  if ← accept "\"" then
    let content ← basicRest (← bound)
    pure (some (String.ofList content))
  else if ← accept "'" then
    let content ← literalRest
    pure (some (String.ofList content))
  else pure none

/-- A string of any form, if one begins here. -/
def string? : Reader (Option String) := do
  if ← accept "\"\"\"" then
    firstLineEnd
    let content ← multilineBasicRest (← bound)
    pure (some (String.ofList content))
  else if ← accept "'''" then
    firstLineEnd
    let content ← multilineLiteralRest (← bound)
    pure (some (String.ofList content))
  else line?

end CppModel.Toml.Text
