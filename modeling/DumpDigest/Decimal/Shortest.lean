import DumpDigest.Decimal.Binary
import DumpDigest.Decimal.Rounding

/-! # The shortest decimal that reads back

Of the decimals that lie in the interval of reals rounding to a float, the ones with the fewest
digits are found by trying the two neighbours of the value on ever finer decimal grids; of two hits
on one grid the nearer is taken. Seventeen digits always suffice.
-/

namespace DumpDigest.Decimal

/-- The value `digits · 10 ^ exponent`. -/
structure Scientific where
  digits : Nat
  exponent : Int
  deriving DecidableEq

/-- The number of decimal digits of a natural. -/
def digitCount (n : Nat) : Nat :=
  (Nat.toDigits 10 n).length

namespace Binary

/-- The exponent `k` with `10 ^ k ≤ value < 10 ^ (k + 1)`. -/
def magnitude (value : Binary) : Int :=
  let (numerator, denominator) := scaledFraction value.mantissa value.exponent 0
  if denominator ≤ numerator then
    digitCount (numerator / denominator) - 1
  else
    -digitCount ((denominator - 1) / numerator)

/-- The decimal on the grid of step `10 ^ step` that is next to the value, provided that it reads
back as the value. Everything is compared in quarters of the value's unit, where the value is four
times its mantissa and its interval reaches two quarters up and two down, or one. -/
def onGrid? (tie : Tie) (value : Binary) (step : Int) : Option Nat :=
  let quarters := 4 * value.mantissa
  let (unit, scale) := scaledFraction 1 (value.exponent - 2) (-step)
  let low := (quarters - if value.halfGapBelow then 1 else 2) * unit
  let high := (quarters + 2) * unit
  let readsBack (candidate : Nat) : Bool :=
    let point := candidate * scale
    if value.mantissa % 2 = 0 then low ≤ point && point ≤ high else low < point && point < high
  let below := quarters * unit / scale
  match readsBack below, readsBack (below + 1) with
  | true, true => some (roundDiv tie (quarters * unit) scale)
  | true, false => some below
  | false, true => some (below + 1)
  | false, false => none

/-- The shortest decimal that reads back as the value, the nearest of these. The upper neighbour of
a value may be the next power of ten, which has one digit. -/
def shortest (tie : Tie) (value : Binary) : Scientific :=
  let magnitude := value.magnitude
  let attempt (places : Nat) : Option Scientific :=
    (value.onGrid? tie (magnitude - places)).map fun digits =>
      if digits = Nat.pow 10 (places + 1) then ⟨1, magnitude + 1⟩ else ⟨digits, magnitude - places⟩
  ((List.range 17).findSome? attempt).getD ⟨value.mantissa, value.exponent⟩

end Binary

end DumpDigest.Decimal
