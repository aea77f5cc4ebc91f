import DumpDigest.Value.Basic

/-! # Tallies of distributions

The weighted total and the number of observations of several distributions together. Both are
accumulated in 128 bits, signed and unsigned, and stay at a bound that they reach; results of 64
bits are clamped in the same way.
-/

namespace DumpDigest

/-- The integer of a range that is next to the given one. -/
def clamp (low high value : Int) : Int :=
  max low (min high value)

/-- The integer of 64 bits with a sign that is next to the given one. -/
def clampInt64 (value : Int) : Int64 :=
  .ofInt (clamp Int64.minValue.toInt Int64.maxValue.toInt value)

/-- The integers of 128 bits with a sign end in front of this one: `2 ^ 127`. -/
def wideBound : Nat := 0x80000000000000000000000000000000

/-- The sums over distributions: keys times counts, and counts. -/
structure Tally where
  total : Int
  count : Nat
  deriving DecidableEq

namespace Tally

/-- The tally of nothing. -/
def zero : Tally := ⟨0, 0⟩

/-- The tally with one entry more. -/
def add (tally : Tally) (key : Int64) (count : UInt64) : Tally :=
  ⟨clamp (-wideBound) (wideBound - 1) (tally.total + key.toInt * count.toNat),
    min (2 * wideBound - 1) (tally.count + count.toNat)⟩

/-- The tally of distributions, those of the key zero left out on demand. -/
def of (dropZero : Bool) (distributions : List Distribution) : Tally :=
  (distributions.flatMap (·.toList)).foldl
    (fun tally entry => if dropZero && entry.1 == 0 then tally else tally.add entry.1 entry.2)
    zero

end Tally

/-- Keys times counts, summed over distributions, within 64 bits. -/
def distributionTotal (distributions : List Distribution) : Int64 :=
  clampInt64 (Tally.of false distributions).total

/-- The observations of distributions, within 64 bits. -/
def distributionCount (distributions : List Distribution) : UInt64 :=
  .ofNat (min (UInt64.size - 1) (Tally.of false distributions).count)

/-- The mean key of distributions, zero if there is no observation. -/
def distributionAverage (dropZero : Bool) (distributions : List Distribution) : Float :=
  let tally := Tally.of dropZero distributions
  if tally.count = 0 then 0.0 else Float.ofInt tally.total / Float.ofNat tally.count

end DumpDigest
