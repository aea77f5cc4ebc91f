import DumpDigest.Text.Digit

/-! # Written decimals

A written decimal has an optional sign, digits, and for floats a point with digits behind it or an
exponent. The float that it denotes is the one nearest to its value, the even one at a tie.
-/

namespace DumpDigest.Decimal

/-- The parts of a decimal as they are written. -/
structure Numeral where
  sign : Option Char
  whole : List Char
  /-- The digits behind the point, if there is a point. -/
  fraction : Option (List Char)
  /-- The sign and the digits of the exponent, if there is one. -/
  exponent : Option (Option Char × List Char)

/-- An optional sign and what follows it. -/
def splitSign : List Char → Option Char × List Char
  | '-' :: rest => (some '-', rest)
  | '+' :: rest => (some '+', rest)
  | text => (none, text)

theorem splitSign_suffix (text : List Char) : (splitSign text).2 <:+ text := by
  unfold splitSign
  split
  · exact List.suffix_cons _ _
  · exact List.suffix_cons _ _
  · exact List.suffix_rfl

/-- A natural with a sign. -/
def signed (sign : Option Char) (value : Nat) : Int :=
  if sign = some '-' then -value else value

namespace Numeral

/-- Whether the decimal is written as a float. -/
def isFloat (numeral : Numeral) : Bool :=
  numeral.fraction.isSome || numeral.exponent.isSome

/-- The sign and the digits in front of the point. -/
def integerText (numeral : Numeral) : String :=
  String.ofList (numeral.sign.toList ++ numeral.whole)

/-- The integer in front of the point. -/
def toInt (numeral : Numeral) : Int :=
  signed numeral.sign (Text.digitsValue 10 numeral.whole)

/-- The digits on both sides of the point. -/
def digits (numeral : Numeral) : List Char :=
  numeral.whole ++ numeral.fraction.getD []

/-- The power of ten by which the number that all digits form is to be multiplied. -/
def power (numeral : Numeral) : Int :=
  let exponent :=
    match numeral.exponent with
    | none => 0
    | some (sign, digits) => signed sign (Text.digitsValue 10 digits)
  exponent - (numeral.fraction.getD []).length

/-- The float nearest to the decimal without its sign. What lies below `10 ^ -324` is next to zero,
and what reaches `10 ^ 309` is beyond all finite floats. -/
def magnitude (numeral : Numeral) : Float :=
  let power := numeral.power
  match numeral.digits.dropWhile (· = '0') with
  | [] => 0.0
  | digits =>
    if digits.length + power ≤ -324 then 0.0
    else if 309 < digits.length + power then 1.0 / 0.0
    else Float.ofScientific (Text.digitsValue 10 digits) (power < 0) power.natAbs

/-- The float nearest to the decimal. -/
def toFloat (numeral : Numeral) : Float :=
  if numeral.sign = some '-' then -numeral.magnitude else numeral.magnitude

end Numeral

end DumpDigest.Decimal
