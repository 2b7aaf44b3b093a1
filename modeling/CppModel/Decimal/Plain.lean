import CppModel.Decimal.Shortest

/-!
# Plain decimal text

Floating point numbers in messages are written without an exponent, with their
shortest digits and with at least one digit behind the point.
-/

namespace CppModel.Decimal

/-- The text of a decimal number: zeros fill the places up to the point, and a
number without a fraction ends in `.0`. -/
def Scaled.plain (number : Scaled) : String :=
  let digits := (toString number.digits).toList
  if 0 ≤ number.exponent then
    String.ofList (digits ++ List.replicate number.exponent.toNat '0' ++ ['.', '0'])
  else
    let places := (-number.exponent).toNat
    let padded := List.replicate (places + 1 - digits.length) '0' ++ digits
    String.ofList (padded.take (padded.length - places) ++ ['.'] ++
      padded.drop (padded.length - places))

/-- The biased exponent of infinity and of what is no number. -/
def Binary.specialExponent : Nat := 0x7FF

/-- The finite number with the given biased exponent and fraction bits. -/
def Binary.ofFields (exponent fraction : Nat) : Binary :=
  if exponent = 0 then ⟨fraction, Binary.leastExponent⟩
  else ⟨Binary.leastNormal + fraction, Binary.leastExponent + (exponent - 1 : Nat)⟩

/-- The text of a floating point number. -/
def plain (number : Float) : String :=
  let bits := number.toBits.toNat
  let fraction := bits % Binary.leastNormal
  let fields := bits / Binary.leastNormal
  let exponent := fields % (Binary.specialExponent + 1)
  let sign := if exponent < fields then "-" else ""
  if exponent = Binary.specialExponent then
    if fraction = 0 then sign ++ "inf" else "NaN"
  else if exponent = 0 ∧ fraction = 0 then sign ++ "0.0"
  else sign ++ (Binary.ofFields exponent fraction).shortest.plain

end CppModel.Decimal
