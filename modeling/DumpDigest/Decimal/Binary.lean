/-! # Floats as binary fractions

A float is an infinity, not a number, or a signed value `mantissa · 2 ^ exponent` with naturals
below `2 ^ 53` as mantissas. Everything about decimal text is decided on this exact value.
-/

namespace DumpDigest.Decimal

/-- A positive value `mantissa · 2 ^ exponent` as its format stores it. -/
structure Binary where
  mantissa : Nat
  exponent : Int
  /-- Whether the value below is only half as far away as the value above: so it is at the powers of
  two, the smallest exponent apart. -/
  halfGapBelow : Bool
  deriving DecidableEq

/-- What a float stands for; `negative` is the sign. -/
inductive FloatClass where
  | notANumber
  | infinite (negative : Bool)
  | zero (negative : Bool)
  | finite (negative : Bool) (value : Binary)
  deriving DecidableEq

/-- How many fractions there are: `2 ^ 52`. -/
def fractionSize : Nat := 0x10000000000000

/-- The value of the sign bit: `2 ^ 63`. -/
def signBit : Nat := 0x8000000000000000

/-- The value behind the bits of a float: one sign bit, eleven bits of exponent and fifty-two of
fraction. -/
def FloatClass.ofBits (bits : Nat) : FloatClass :=
  let negative := bits / signBit % 2 == 1
  let biased := bits / fractionSize % 2048
  let fraction := bits % fractionSize
  if biased = 2047 then
    if fraction = 0 then infinite negative else notANumber
  else if biased = 0 then
    if fraction = 0 then zero negative else finite negative ⟨fraction, -1074, false⟩
  else
    finite negative ⟨fractionSize + fraction, (biased : Int) - 1075, fraction = 0 && biased > 1⟩

/-- The value of a float. -/
def FloatClass.of (x : Float) : FloatClass :=
  ofBits x.toBits.toNat

/-- The value times `2 ^ shift · 10 ^ scale`, as a numerator over a denominator. -/
def scaledFraction (mantissa : Nat) (shift scale : Int) : Nat × Nat :=
  (mantissa * Nat.pow 2 shift.toNat * Nat.pow 10 scale.toNat,
    Nat.pow 2 (-shift).toNat * Nat.pow 10 (-scale).toNat)

/-- The bits of a float as a signed number, so that the order of these numbers puts negative values
first, `-0.0` before `0.0`, and the values that are not numbers at the ends. -/
def totalOrderKey (x : Float) : Int :=
  let bits := x.toBits.toNat
  if bits < signBit then bits else signBit - 1 - bits

end DumpDigest.Decimal
