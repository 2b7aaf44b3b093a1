import CppModel.Toml.Value

/-!
# Numbers

Integers in four bases and floating point numbers.  An underscore may stand
between any two digits, and a decimal number has no zeros in front.

An integer literal is taken as such before its digits are looked at closely, so
that it may turn out to be no number: one without digits behind the mark of its
base, or one that goes on with something else behind an underscore and a digit.
-/

namespace CppModel.Toml.Number

/-! ## Digits -/

/-- The value of one digit. -/
def digitValue (character : Char) : Nat :=
  if character.isDigit then character.toNat - '0'.toNat
  else if character.isLower then character.toNat - 'a'.toNat + 10
  else character.toNat - 'A'.toNat + 10

/-- The value of digits in a base. -/
def valueOf (base : Nat) (digits : List Char) : Nat :=
  digits.foldl (fun value digit => value * base + digitValue digit) 0

/-- Whether a character is a digit of a base of at most sixteen. -/
def isDigitOf (base : Nat) (character : Char) : Bool :=
  (character.isDigit || ('a' ≤ character && character ≤ 'f') ||
    ('A' ≤ character && character ≤ 'F')) && digitValue character < base

/-- Whether every underscore stands between two digits, where the flag tells
whether a digit stands right in front. -/
def isSpacedBehind (isDigit : Char → Bool) : Bool → List Char → Bool
  | _, [] => true
  | behindDigit, character :: rest =>
      if character = '_' then
        behindDigit && rest.head?.any isDigit && isSpacedBehind isDigit false rest
      else isSpacedBehind isDigit (isDigit character) rest

/-- Whether every underscore stands between two digits. -/
def isSpaced (isDigit : Char → Bool) (text : List Char) : Bool :=
  isSpacedBehind isDigit false text

/-- The characters without the underscores. -/
def withoutUnderscores (text : List Char) : List Char :=
  text.filter (· != '_')

/-- Digits, of which there is at least one. -/
def digits? (text : List Char) : Option (List Char) :=
  if !text.isEmpty && text.all Char.isDigit then some text else none

/-- Whether a number begins with a zero that is not its only digit. -/
def hasLeadingZero (text digits : List Char) : Bool :=
  text.head? == some '0' && 1 < digits.length

/-! ## Signs -/

/-- The sign of a number. -/
inductive Sign
  | plus
  | minus
  deriving DecidableEq, Repr

/-- The sign in front of a text, and the text behind it. -/
def splitSign : List Char → Option Sign × List Char
  | '-' :: rest => (some .minus, rest)
  | '+' :: rest => (some .plus, rest)
  | text => (none, text)

/-- A number with a sign in front. -/
def withSign {Number : Type} [Neg Number] (sign : Option Sign) (number : Number) : Number :=
  if sign = some .minus then -number else number

/-! ## Integers -/

/-- An integer in a base other than ten, behind the mark of the base. -/
def inBase? (base : Nat) (text : List Char) : Option Value :=
  let digits := withoutUnderscores text
  if !(isSpaced (isDigitOf base) text && digits.all (isDigitOf base)) then none
  else if digits.isEmpty then some .brokenInteger
  else some (.integer (valueOf base digits))

/-- A decimal integer.  It is recognised by its first digits, which end the text
or go on with an underscore, and by underscores that divide digits of any base.
A tab may stand in such a text, but not a space. -/
def integer? (sign : Option Sign) (text : List Char) : Option Value :=
  let digits := withoutUnderscores text
  let goesOn := (text.dropWhile Char.isDigit).head?.all (· == '_')
  if text.isEmpty || text.contains ' ' || !goesOn || hasLeadingZero text digits ||
      !isSpaced (isDigitOf 16) text then none
  else if digits.all Char.isDigit then some (.integer (withSign sign (valueOf 10 digits : Int)))
  else some .brokenInteger

/-! ## Floating point numbers -/

/-- Whether a character begins the exponent of a number. -/
def isExponentMark (character : Char) : Bool :=
  character == 'e' || character == 'E'

/-- The digits behind the point; none if there is no point. -/
def fraction? : List Char → Option (List Char)
  | [] => some []
  | '.' :: rest => digits? rest
  | _ => none

/-- The exponent, with its mark in front; zero if there is none. -/
def exponent? : List Char → Option Int
  | [] => some 0
  | _ :: rest => do
      let (sign, body) := splitSign rest
      let digits ← digits? body
      some (withSign sign (valueOf 10 digits : Int))

/-- The largest exponent that the leading digit of a number can have. -/
def greatestPlace : Int := 310

/-- An exponent of the leading digit below which every number reads as zero. -/
def leastPlace : Int := -330

/-- The number `digits * 10 ^ exponent`, if it is not beyond the largest one.
The exponent is looked at first, so that no power of ten is formed that could
not matter. -/
def scaled? (digits : List Char) (exponent : Int) : Option Float :=
  let significand := valueOf 10 digits
  let place := (digits.dropWhile (· == '0')).length + exponent
  if significand = 0 ∨ place < leastPlace then some 0
  else if greatestPlace < place then none
  else
    let value := Float.ofScientific significand (exponent < 0) exponent.natAbs
    if value.isInf then none else some value

/-- A number with a fraction or an exponent. -/
def decimal? (sign : Option Sign) (text : List Char) : Option Value := do
  let body := withoutUnderscores text
  let mantissa := body.takeWhile (! isExponentMark ·)
  let whole ← digits? (mantissa.takeWhile (· != '.'))
  let fraction ← fraction? (mantissa.dropWhile (· != '.'))
  let exponent ← exponent? (body.dropWhile (! isExponentMark ·))
  if hasLeadingZero text whole || !isSpaced Char.isDigit text then none
  else
    match scaled? (whole ++ fraction) (exponent - fraction.length) with
    | some value => some (.float (withSign sign value))
    | none => some .hugeFloat

/-! ## Numbers of any form -/

/-- Whether a text has a point or the mark of an exponent. -/
def isDecimal (text : List Char) : Bool :=
  text.any fun character => character == '.' || isExponentMark character

/-- The number that a text behind a sign stands for. -/
def behindSign? (sign : Option Sign) (text : List Char) : Option Value :=
  if text = "inf".toList then some (.float (withSign sign (1 / 0)))
  else if text = "nan".toList then some (.float (0 / 0))
  else if isDecimal text then decimal? sign text
  else integer? sign text

/-- The number that a text stands for. -/
def ofChars? (text : List Char) : Option Value :=
  match text with
  | '0' :: 'x' :: digits => inBase? 16 digits
  | '0' :: 'o' :: digits => inBase? 8 digits
  | '0' :: 'b' :: digits => inBase? 2 digits
  | _ =>
      let (sign, body) := splitSign text
      behindSign? sign body

/-- Literals that are no numbers, beside texts that are no literals. -/
example :
    ((["0x", "1_a", "1_2\t3"].map (ofChars? ·.toList)).all Option.isSome) = true ∧
      ((["0x_", "01", "1__0", "-_1", "1_2 3"].map (ofChars? ·.toList)).all
        Option.isNone) = true := by
  decide +kernel

end CppModel.Toml.Number
