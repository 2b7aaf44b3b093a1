import CppModel.Text.Visible

/-!
# Quoted text

Messages quote text between double quotes so that it can be read without doubt:
a quote and a backslash are written behind a backslash, the common control
characters by their letter, and every other character that does not show by its
code point in hexadecimal digits.
-/

namespace CppModel.Text

/-- The digits of a code point in base sixteen, in lower case and without
leading zeros. -/
def hexDigits (code : Nat) : List Char :=
  Nat.toDigits 16 code

/-- One character of quoted text. -/
def quotedChar (character : Char) : List Char :=
  match character with
  | '\x00' => ['\\', '0']
  | '\t' => ['\\', 't']
  | '\r' => ['\\', 'r']
  | '\n' => ['\\', 'n']
  | '\\' => ['\\', '\\']
  | '"' => ['\\', '"']
  | _ =>
      if isVisible character then [character]
      else ['\\', 'u', '\x7b'] ++ hexDigits character.toNat ++ ['\x7d']

/-- A text between double quotes. -/
def quoted (text : String) : String :=
  String.ofList ('"' :: text.toList.flatMap quotedChar ++ ['"'])

end CppModel.Text
