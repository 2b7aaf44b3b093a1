/-!
# Blank characters

White space decides where documentation begins and ends and how far it is
indented.  The set is the Unicode property `White_Space`, which is wider than
the ASCII blanks: a line that holds only a no-break space is a blank line.

Text is handled as a list of characters here, so that trimming is `dropWhile`
and its laws are those of the list library.
-/

namespace CppModel.Text

/-- Membership in the Unicode property `White_Space`. -/
def isBlank (character : Char) : Bool :=
  let code := character.toNat
  (0x9 ≤ code && code ≤ 0xD) || code == 0x20 || code == 0x85 || code == 0xA0 ||
    code == 0x1680 || (0x2000 ≤ code && code ≤ 0x200A) || code == 0x2028 ||
    code == 0x2029 || code == 0x202F || code == 0x205F || code == 0x3000

/-- A line without any character that shows. -/
def isBlankLine (line : List Char) : Bool :=
  line.all isBlank

/-- The text from its first character that shows. -/
def trimStart (line : List Char) : List Char :=
  line.dropWhile isBlank

/-- The text up to its last character that shows. -/
def trimEnd (line : List Char) : List Char :=
  (line.reverse.dropWhile isBlank).reverse

/-- Every blank of the ASCII class is blank here. -/
theorem isBlank_of_isWhitespace {character : Char} (blank : character.isWhitespace = true) :
    isBlank character = true := by
  simp only [Char.isWhitespace, Bool.or_eq_true, decide_eq_true_eq] at blank
  rcases blank with ((equal | equal) | equal) | equal <;> subst equal <;> decide

@[simp]
theorem isBlankLine_nil : isBlankLine [] = true :=
  rfl

@[simp]
theorem isBlankLine_cons (character : Char) (line : List Char) :
    isBlankLine (character :: line) = (isBlank character && isBlankLine line) :=
  rfl

theorem trimStart_eq_nil_iff {line : List Char} :
    trimStart line = [] ↔ isBlankLine line = true := by
  induction line with
  | nil => simp [trimStart]
  | cons character line inductionHypothesis =>
      cases blank : isBlank character with
      | true => simpa [trimStart, blank] using inductionHypothesis
      | false => simp [trimStart, blank]

end CppModel.Text
