/-!
# Shortest decimal digits

Among all decimal numbers that a binary floating point number is read back
from, the one with the fewest digits is the one to show, and among those the
nearest.  The search is exact: on the grid of decimals with a given number of
digits only the two neighbours of the number can be hits, because a grid point
in the interval around the number lies on one of its two sides, and the nearer
neighbour on that side is in the interval as well.
-/

namespace CppModel.Decimal

/-- A positive number `significand * 2 ^ exponent`. -/
structure Binary where
  significand : Nat
  exponent : Int
  deriving DecidableEq, Repr

/-- A decimal number `digits * 10 ^ exponent`. -/
structure Scaled where
  digits : Nat
  exponent : Int
  deriving DecidableEq, Repr

/-- A non-negative fraction. -/
structure Fraction where
  numerator : Nat
  denominator : Nat
  deriving DecidableEq, Repr

namespace Fraction

/-- `count * base ^ exponent` as a fraction. -/
def ofPower (count base : Nat) (exponent : Int) : Fraction :=
  if 0 ≤ exponent then ⟨count * base.pow exponent.toNat, 1⟩
  else ⟨count, base.pow (-exponent).toNat⟩

/-- Compare two fractions with positive denominators. -/
def lt (first second : Fraction) : Bool :=
  first.numerator * second.denominator < second.numerator * first.denominator

/-- The distance between two fractions. -/
def distance (first second : Fraction) : Fraction :=
  let left := first.numerator * second.denominator
  let right := second.numerator * first.denominator
  ⟨(left - right) + (right - left), first.denominator * second.denominator⟩

end Fraction

namespace Scaled

/-- The value of a decimal number. -/
def value (number : Scaled) : Fraction :=
  .ofPower number.digits 10 number.exponent

end Scaled

namespace Binary

/-- The number itself, counted in quarters of its last place. -/
def quarters (number : Binary) (count : Nat) : Fraction :=
  .ofPower count 2 (number.exponent - 2)

/-- The value of a binary number. -/
def value (number : Binary) : Fraction :=
  number.quarters (4 * number.significand)

/-- The number of bits behind the leading one in a significand. -/
def fractionBits : Nat := 52

/-- The least significand of a number with full precision. -/
def leastNormal : Nat := 1 <<< fractionBits

/-- The exponent of the smallest numbers. -/
def leastExponent : Int := -1074

/-- The quarters between a number and the lower end of the interval that rounds
to it: the gap below a power of two is half as wide as the one above. -/
def lowerQuarters (number : Binary) : Nat :=
  if number.significand = leastNormal ∧ leastExponent < number.exponent then 1 else 2

/-- Whether a fraction is read as this number: it lies between the midpoints to
both neighbours, where a midpoint goes to the even significand. -/
def readsAs (number : Binary) (fraction : Fraction) : Bool :=
  let low := number.quarters (4 * number.significand - number.lowerQuarters)
  let high := number.quarters (4 * number.significand + 2)
  if number.significand % 2 = 0 then !fraction.lt low && !high.lt fraction
  else low.lt fraction && fraction.lt high

/-- The largest exponent `e` of at most `bound` below `start` with
`10 ^ e ≤ number`, searched downwards. -/
def leadingExponent (number : Binary) : Nat → Int → Int
  | 0, exponent => exponent
  | bound + 1, exponent =>
      if number.value.lt (.ofPower 1 10 exponent) then
        number.leadingExponent bound (exponent - 1)
      else exponent

/-- The better of the two neighbours on the grid of multiples of
`10 ^ exponent`, if one of them reads as the number.  A tie goes up. -/
def neighbour? (number : Binary) (exponent : Int) : Option Scaled :=
  let grid := Fraction.ofPower 1 10 exponent
  let value := number.value
  let below := value.numerator * grid.denominator / (value.denominator * grid.numerator)
  let lower : Scaled := ⟨below, exponent⟩
  let upper : Scaled := ⟨below + 1, exponent⟩
  match number.readsAs lower.value, number.readsAs upper.value with
  | true, true =>
      some (if (value.distance lower.value).lt (value.distance upper.value) then lower else upper)
  | true, false => some lower
  | false, true => some upper
  | false, false => none

/-- The first grid with a hit, from the given one to finer ones. -/
def search (number : Binary) : Nat → Int → Option Scaled
  | 0, _ => none
  | bound + 1, exponent =>
      match number.neighbour? exponent with
      | some found => some found
      | none => number.search bound (exponent - 1)

/-- The number of digits that always suffices. -/
def mostDigits : Nat := 17

/-- The largest exponent that a leading digit can have. -/
def greatestExponent : Int := 308

/-- The decimal number with the fewest digits that reads as this number.  The
search begins one place in front of the leading digit, where the next power of
ten stands. -/
def shortest (number : Binary) : Scaled :=
  let leading := number.leadingExponent 640 greatestExponent
  (number.search (mostDigits + 1) (leading + 1)).getD ⟨number.significand, 0⟩

end Binary

/-- The example of a number whose digits are not those of its exact value. -/
example : (Binary.mk 7205759403792794 (-56)).shortest = ⟨1, -1⟩ := by
  decide +kernel

end CppModel.Decimal
