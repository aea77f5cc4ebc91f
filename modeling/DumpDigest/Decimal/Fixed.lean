import DumpDigest.Decimal.Layout

/-! # Decimals with a fixed number of places

A float is rounded on its exact binary value, a tie going to the even neighbour. The sign stays when
the digits round to zero.
-/

namespace DumpDigest.Decimal

/-- A natural counted in units of `10 ^ -places`, written with that many places. -/
def pointed (places units : Nat) : String :=
  let digits := Nat.toDigits 10 units
  let padded := List.replicate (places + 1 - digits.length) '0' ++ digits
  let whole := padded.length - places
  let fraction := padded.drop whole
  String.ofList (padded.take whole ++ if fraction.isEmpty then [] else '.' :: fraction)

/-- A value in units of `10 ^ -places`, rounded to the nearest, ties to even. -/
def Binary.inUnits (places : Nat) (value : Binary) : Nat :=
  let (numerator, denominator) := scaledFraction value.mantissa value.exponent places
  roundDiv .even numerator denominator

/-- The text of a float with a fixed number of places. -/
def fixed (places : Nat) (x : Float) : String :=
  match FloatClass.of x with
  | .notANumber => "NaN"
  | .infinite negative => Layout.sign negative ++ "inf"
  | .zero negative => Layout.sign negative ++ pointed places 0
  | .finite negative value => Layout.sign negative ++ pointed places (value.inUnits places)

end DumpDigest.Decimal
