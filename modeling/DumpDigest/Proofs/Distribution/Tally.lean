import DumpDigest.Proofs.MachineIntegers
import DumpDigest.Proofs.Saturation
import DumpDigest.Proofs.SortedMap.Erase
import Mathlib.Data.Bool.AllAny

/-!
# What is tallied of distributions

A tally is taken entry by entry, and both of its numbers are held within 128 bits on the way.
Counts only add up, so the number of observations is the exact one up to its bound
(`Tally.count_eq`).  Keys have signs, so a total that has reached a bound may be led back from
there, and then it is not the exact one any more: `total_of_mirrored_keys` has distributions whose
exact total is zero, while the total that is found for them is as great or as small as it can be,
depending on which entries come first.

`totals_are_clamped_sums` says when this does not happen, and that the total is then the exact one
brought within 64 bits, whatever the order of the entries and however they are spread.
-/

namespace DumpDigest

/-! ### Tallies -/

namespace Tally

variable {dropZero : Bool} {distributions others : List Distribution}

/-- What an entry adds to a total. -/
def weight (entry : Int64 × UInt64) : Int :=
  entry.1.toInt * entry.2.toNat

/-- The entries that are tallied, one distribution after the other. -/
def entries (dropZero : Bool) (distributions : List Distribution) : List (Int64 × UInt64) :=
  (distributions.flatMap (·.toList)).filter fun entry => !(dropZero && entry.1 == 0)

/-- What the entries that are tallied add to a total. -/
def weights (dropZero : Bool) (distributions : List Distribution) : List Int :=
  (entries dropZero distributions).map weight

/-- The observations in the entries that are tallied. -/
def observations (dropZero : Bool) (distributions : List Distribution) : Nat :=
  ((entries dropZero distributions).map fun entry => entry.2.toNat).sum

/-- The sum of integers within 128 bits at every step. -/
def wideSum (numbers : List Int) : Int :=
  saturatingSum (-wideBound) (wideBound - 1) numbers

theorem of_eq : of dropZero distributions =
    (entries dropZero distributions).foldl (fun tally entry => tally.add entry.1 entry.2) zero := by
  rw [of, entries, List.foldl_filter]
  congr
  funext tally entry
  cases dropZero && entry.1 == 0 <;> rfl

/-- **The total of a tally** is the sum of what the entries add, within 128 bits at every step. -/
theorem total_eq :
    (of dropZero distributions).total = wideSum (weights dropZero distributions) := by
  rw [of_eq, wideSum, saturatingSum, weights, List.foldl_map]
  exact (List.foldl_hom total fun _ _ => rfl).symm

/-- **The count of a tally** is the number of observations up to the bound of 128 bits. -/
theorem count_eq : (of dropZero distributions).count =
    min (2 * wideBound - 1) (observations dropZero distributions) := by
  rw [of_eq, observations]
  induction entries dropZero distributions using List.reverseRecOn with
  | nil => rfl
  | append_singleton entries entry ih =>
    rw [List.foldl_append, List.foldl_cons, List.foldl_nil, add, ih, List.map_append,
      List.sum_append, List.map_singleton, List.sum_singleton]
    dsimp only
    omega

theorem entries_perm (perm : distributions.Perm others) :
    (entries dropZero distributions).Perm (entries dropZero others) :=
  (perm.flatMap_right _).filter _

theorem observations_perm (perm : distributions.Perm others) :
    observations dropZero distributions = observations dropZero others :=
  ((entries_perm perm).map _).sum_eq

/-- **A tally does not depend on the order** of distributions that add little to the total. -/
theorem of_perm (small : ((weights dropZero distributions).map Int.natAbs).sum < wideBound)
    (perm : distributions.Perm others) : of dropZero distributions = of dropZero others := by
  have total : (of dropZero distributions).total = (of dropZero others).total := by
    rw [total_eq, total_eq]
    exact saturatingSum_perm (by omega) (by omega) le_rfl ((entries_perm perm).map weight)
  have count : (of dropZero distributions).count = (of dropZero others).count := by
    rw [count_eq, count_eq, observations_perm perm]
  calc of dropZero distributions
    _ = ⟨(of dropZero others).total, (of dropZero others).count⟩ := by rw [← total, ← count]
    _ = of dropZero others := rfl

theorem wideBounds : -(wideBound : Int) ≤ 0 ∧ (0 : Int) ≤ wideBound - 1 := by
  decide

end Tally

/-! ### Totals -/

/-- An integer brought within 128 bits and then within 64 bits is brought within 64 bits. -/
theorem clampInt64_clamp (n : Int) :
    clampInt64 (clamp (-wideBound) (wideBound - 1) n) = clampInt64 n := by
  have low : -(wideBound : Int) ≤ Int64.minValue.toInt := by decide
  have high : Int64.maxValue.toInt ≤ (wideBound : Int) - 1 := by decide
  refine Int64.toInt_inj.mp ?_
  simp only [toInt_clampInt64, clamp]
  omega

theorem distributionTotal_eq (distributions : List Distribution) :
    distributionTotal distributions =
      clampInt64 (Tally.wideSum (Tally.weights false distributions)) := by
  rw [distributionTotal, Tally.total_eq]

/-- Whether no entry leads the total of distributions back from beyond the bounds of 128 bits. -/
def TotalStaysOut (distributions : List Distribution) : Prop :=
  StaysOut (-wideBound) (wideBound - 1) (Tally.weights false distributions)

theorem total_eq_clamped_sum {distributions : List Distribution}
    (stays : TotalStaysOut distributions) :
    distributionTotal distributions = clampInt64 (Tally.weights false distributions).sum := by
  rw [distributionTotal_eq, Tally.wideSum,
    saturatingSum_eq_clamp Tally.wideBounds.1 Tally.wideBounds.2 stays, clampInt64_clamp]

/-- What makes sure that totals are not led back: what the entries add is small, or their keys are
of one sign. -/
inductive Straight (distributions : List Distribution) : Prop
  | small (within : ((Tally.weights false distributions).map Int.natAbs).sum < wideBound)
  | nonneg (each : ∀ entry ∈ Tally.entries false distributions, 0 ≤ entry.1.toInt)
  | nonpos (each : ∀ entry ∈ Tally.entries false distributions, entry.1.toInt ≤ 0)

theorem Straight.staysOut {distributions : List Distribution} (straight : Straight distributions) :
    TotalStaysOut distributions := by
  cases straight with
  | small within =>
    refine (staysWithin_of_natAbs ?_ ?_ (Nat.le_sub_one_of_lt within)).staysOut
    · decide
    · decide
  | nonneg each =>
    refine staysOut_of_nonneg Tally.wideBounds.1 (List.forall_mem_map.mpr fun entry member => ?_)
    exact Int.mul_nonneg (each entry member) (Int.natCast_nonneg _)
  | nonpos each =>
    refine staysOut_of_nonpos Tally.wideBounds.2 (List.forall_mem_map.mpr fun entry member => ?_)
    exact Int.mul_nonpos_of_nonpos_of_nonneg (each entry member) (Int.natCast_nonneg _)

/-- **The total of distributions is the exact one brought within 64 bits**, if no entry leads it
back from beyond the bounds of 128 bits, within which it is held at every step; then it depends on
the entries only, and neither on their order nor on how they are spread over distributions.  No
entry does so if the entries add little or their keys are of one sign. -/
theorem totals_are_clamped_sums :
    (∀ distributions, distributionTotal distributions =
      clampInt64 (Tally.wideSum (Tally.weights false distributions))) ∧
    (∀ distributions, TotalStaysOut distributions →
      distributionTotal distributions = clampInt64 (Tally.weights false distributions).sum) ∧
    (∀ distributions others, TotalStaysOut distributions → TotalStaysOut others →
      (Tally.entries false distributions).Perm (Tally.entries false others) →
        distributionTotal distributions = distributionTotal others) ∧
    ∀ distributions, Straight distributions → TotalStaysOut distributions := by
  refine ⟨distributionTotal_eq, fun _ => total_eq_clamped_sum, ?_, fun _ => Straight.staysOut⟩
  intro distributions others stays stays' perm
  have sums : (Tally.weights false distributions).sum = (Tally.weights false others).sum :=
    (perm.map Tally.weight).sum_eq
  rw [total_eq_clamped_sum stays, total_eq_clamped_sum stays', sums]

/-- The greatest count that a dump can hold. -/
def greatestCount : UInt64 := 0x7FFFFFFFFFFFFFFF

/-- The three greatest keys, each as often as a dump can say. -/
def greatestKeys : Distribution :=
  .ofList [(0x7FFFFFFFFFFFFFFD, greatestCount), (0x7FFFFFFFFFFFFFFE, greatestCount),
    (0x7FFFFFFFFFFFFFFF, greatestCount)]

/-- The same keys with the other sign. -/
def leastKeys : Distribution :=
  .ofList [(-0x7FFFFFFFFFFFFFFF, greatestCount), (-0x7FFFFFFFFFFFFFFE, greatestCount),
    (-0x7FFFFFFFFFFFFFFD, greatestCount)]

/-- Both in one distribution. -/
def mirroredKeys : Distribution :=
  SortedMap.extend leastKeys greatestKeys.toList

/-- Far beyond a bound, but always further away, and small numbers in another order. -/
theorem straight_totals :
    (TotalStaysOut [greatestKeys] ∧ distributionTotal [greatestKeys] = Int64.maxValue) ∧
    TotalStaysOut [.ofList [(-2, 3), (5, 1)], .ofList [(7, 2)]] ∧
    TotalStaysOut [.ofList [(5, 1), (7, 2)], .ofList [(-2, 3)]] ∧
    distributionTotal [.ofList [(-2, 3), (5, 1)], .ofList [(7, 2)]] =
      distributionTotal [.ofList [(5, 1), (7, 2)], .ofList [(-2, 3)]] := by
  obtain ⟨-, clamped, agree, straight⟩ := totals_are_clamped_sums
  have greatest := straight [greatestKeys] (.nonneg (List.all_iff_forall_prop.mp (by decide)))
  have small := straight [.ofList [(-2, 3), (5, 1)], .ofList [(7, 2)]] (.small (by decide))
  have small' := straight [.ofList [(5, 1), (7, 2)], .ofList [(-2, 3)]] (.small (by decide))
  refine ⟨⟨greatest, ?_⟩, small, small', agree _ _ small small' (by decide)⟩
  rw [clamped _ greatest]
  decide

/-- **A total may be led back from a bound**: here the exact total is zero, and what is found is the
greatest integer of 64 bits or the least, depending on whether the least or the greatest keys come
first. -/
theorem total_of_mirrored_keys :
    (Tally.weights false [mirroredKeys]).sum = 0 ∧
    distributionTotal [mirroredKeys] = Int64.maxValue ∧
    (Tally.entries false [greatestKeys, leastKeys]).Perm (Tally.entries false [mirroredKeys]) ∧
    distributionTotal [greatestKeys, leastKeys] = Int64.minValue ∧
    ¬ ∀ distributions,
      distributionTotal distributions = clampInt64 (Tally.weights false distributions).sum := by
  have sum : (Tally.weights false [mirroredKeys]).sum = 0 := by decide
  have found : distributionTotal [mirroredKeys] = Int64.maxValue := by decide
  refine ⟨sum, found, by decide, by decide, fun always => ?_⟩
  have clamped := always [mirroredKeys]
  rw [sum, found] at clamped
  exact absurd clamped (by decide)

end DumpDigest
