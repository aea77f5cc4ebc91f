/-! # Rounding a quotient

A quotient of naturals rounded to the nearest natural, with the two ways to settle a tie.
-/

namespace DumpDigest.Decimal

/-- What happens to a value in the middle between its two neighbours. -/
inductive Tie where
  /-- The neighbour away from zero. -/
  | away
  /-- The even neighbour. -/
  | even
  deriving DecidableEq

/-- Whether a tie above `below` goes to the upper neighbour. -/
def Tie.goesUp : Tie → Nat → Bool
  | away, _ => true
  | even, below => below % 2 == 1

/-- The natural nearest to `numerator / denominator`. -/
def roundDiv (tie : Tie) (numerator denominator : Nat) : Nat :=
  let below := numerator / denominator
  match compare (2 * (numerator % denominator)) denominator with
  | .lt => below
  | .eq => if tie.goesUp below then below + 1 else below
  | .gt => below + 1

end DumpDigest.Decimal
