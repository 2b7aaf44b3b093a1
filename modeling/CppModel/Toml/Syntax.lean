import CppModel.Toml.Checked
import CppModel.Toml.Document
import CppModel.Toml.Number
import CppModel.Toml.Text

/-!
# The syntax of TOML

A document in TOML 1.1 is read into one table.  A text that is no document is
refused as a whole, without a reason.  Two limits are set to documents: the parts
of a key, and the depth to which lists and tables lie inside each other.
-/

namespace CppModel.Toml

namespace Syntax

open Reader

/-! ## Keys -/

/-- The characters of keys without quotes. -/
def isBare (character : Char) : Bool :=
  character.isAlphanum || character == '_' || character == '-'

/-- One part of a key. -/
def keyPart : Reader String := do
  match ← Text.line? with
  | some text => pure text
  | none =>
      match ← takeWhile isBare with
      | [] => refuse
      | characters => pure (String.ofList characters)

/-- One part, or several with dots between them, but at most `count`. -/
def keyParts : Nat → Reader (List String)
  | 0 => refuse
  | count + 1 => do
      let part ← keyPart
      skipSpaces
      if ← accept "." then
        skipSpaces
        let parts ← keyParts count
        pure (part :: parts)
      else pure [part]

/-- How many parts a key may have. -/
def greatestKey : Nat := 80

/-- A key. -/
def key : Reader (List String) :=
  keyParts greatestKey

/-! ## Values -/

/-- The characters that may stand in a value without quotes and brackets: all
but blanks, line ends and the signs with a meaning of their own. -/
def isAtomic (character : Char) : Bool :=
  !(isSpace character ||
    ['\r', '\n', '=', ',', '[', ']', '\x7b', '\x7d', '#'].contains character)

/-- Whether a character begins a string. -/
def isQuote (character : Char) : Bool :=
  character == '"' || character == '\''

/-- The characters in front of a text that make up a value without quotes and
brackets, where `blanks` have been passed since the last of them.  Blanks belong
to the value if it goes on behind them, but not in front of a string. -/
def atomBehind : List Char → List Char → List Char
  | _, [] => []
  | blanks, character :: rest =>
      if isSpace character then atomBehind (blanks ++ [character]) rest
      else if isAtomic character && (blanks.isEmpty || !isQuote character) then
        blanks ++ character :: atomBehind [] rest
      else []

/-- A date goes on with its time, but not with a comment or a string. -/
example :
    atomBehind [] "1979-05-27 07:32  # day".toList = "1979-05-27 07:32".toList ∧
      atomBehind [] "1 'text'".toList = "1".toList := by
  decide +kernel

/-- The characters of a value without quotes and brackets. -/
def atom : Reader (List Char) := fun text =>
  let characters := atomBehind [] text
  some (characters, text.drop characters.length)

/-- The value that characters without quotes and brackets stand for. -/
def valueOfAtom? (characters : List Char) : Option Value :=
  if characters = "true".toList then some (.boolean true)
  else if characters = "false".toList then some (.boolean false)
  else
    match Number.ofChars? characters with
    | some value => some value
    | none => (DateTime.ofChars? characters).map .dateTime

/-- A value without brackets. -/
def scalar : Reader Value := do
  match ← Text.string? with
  | some text => pure (.string text)
  | none =>
      match valueOfAtom? (← atom) with
      | some value => pure value
      | none => refuse

/-- The sign between a key and its value. -/
def equals : Reader Unit := do
  skipSpaces
  expect "="
  skipSpaces

mutual

/-- A value, where `levels` more lists and tables may be opened inside each
other. -/
def value : Nat → Nat → Reader Value
  | 0, _ => refuse
  | bound + 1, levels => do
      if ← accept "[" then
        match levels with
        | 0 => refuse
        | levels + 1 =>
            let items ← items bound levels
            pure (.list items)
      else if ← accept "\x7b" then
        match levels with
        | 0 => refuse
        | levels + 1 =>
            let content ← entries bound levels
            match inlineTable? content with
            | some table => pure table
            | none => refuse
      else scalar

/-- The items of a list and its closing bracket.  A comma may follow the last
item. -/
def items : Nat → Nat → Reader (List Value)
  | 0, _ => refuse
  | bound + 1, levels => do
      skipGap
      if ← accept "]" then pure []
      else
        let item ← value bound levels
        skipGap
        if ← accept "," then
          let rest ← items bound levels
          pure (item :: rest)
        else
          expect "]"
          pure [item]

/-- The entries of a table in braces and its closing brace.  A comma may follow
the last entry, and line ends and comments may stand on both sides of every
sign. -/
def entries : Nat → Nat → Reader (List (List String × Value))
  | 0, _ => refuse
  | bound + 1, levels => do
      skipGap
      if ← accept "\x7d" then pure []
      else
        let path ← key
        skipGap
        expect "="
        skipGap
        let content ← value bound levels
        skipGap
        if ← accept "," then
          let rest ← entries bound levels
          pure ((path, content) :: rest)
        else
          expect "\x7d"
          pure [(path, content)]

end

/-! ## Documents -/

/-- How many lists and tables may be opened inside each other. -/
def greatestNesting : Nat := 80

/-- A header, if one begins here. -/
def header? : Reader (Option Header) := do
  if ← accept "[[" then
    skipSpaces
    let path ← key
    expect "]]"
    lineEnd
    pure (some (.row path))
  else if ← accept "[" then
    skipSpaces
    let path ← key
    expect "]"
    lineEnd
    pure (some (.table path))
  else pure none

/-- A line with a key and a value. -/
def entry : Reader (List String × Value) := do
  let path ← key
  equals
  let content ← value (← bound) greatestNesting
  lineEnd
  pure (path, content)

/-- The entries up to the next header, and the sections from there on. -/
def sections : Nat → Reader (List (List String × Value) × List Section)
  | 0 => refuse
  | bound + 1 => do
      skipGap
      if ← atEnd then pure ([], [])
      else
        match ← header? with
        | some header =>
            let (content, rest) ← sections bound
            pure ([], ⟨header, content⟩ :: rest)
        | none =>
            let first ← entry
            let (content, rest) ← sections bound
            pure (first :: content, rest)

end Syntax

/-- The characters of a text without a byte order mark in front. -/
def withoutByteOrderMark : List Char → List Char
  | '\ufeff' :: rest => rest
  | text => text

/-- The table that a document stands for. -/
def parse? (text : String) : Option Table := do
  let characters := withoutByteOrderMark text.toList
  let ((content, sections), _) ← Syntax.sections (characters.length + 1) characters
  tableOf? content sections

/-- The table that a document stands for, if every literal in it has a
value. -/
def parseChecked? (text : String) : Option Table := do
  Value.checkedEntries? (← parse? text)

end CppModel.Toml
