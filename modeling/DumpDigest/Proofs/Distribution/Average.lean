import DumpDigest.Proofs.Distribution.Tally

/-!
# The average of distributions

An average is the quotient of the two numbers of a tally.  The total and the count that are reported
beside it are those numbers within 64 bits, so the average is their quotient only if neither of them
is at a bound; the tally itself is held within 128 bits, and exact until then (`Tally.Exact`), which
with no more than 64 bits of observations is always (`Tally.Exact.of_observations`).

Leaving out the key zero is the same as deleting it (`Tally.of_withoutZero`).  This adds nothing to
the total, however far the total is led on the way (`distributionTotal_withoutZero`), and takes from
the observations those at the key zero (`Tally.observations_eq_add`).
-/

namespace DumpDigest

/-- Distributions without what they hold at the key zero. -/
def withoutZero (distributions : List Distribution) : List Distribution :=
  distributions.map (·.erase 0)

/-- The observations at the key zero. -/
def zeroObservations (distributions : List Distribution) : Nat :=
  (distributions.map fun distribution => ((distribution.find? 0).getD 0).toNat).sum

namespace Tally

variable {dropZero : Bool} {distributions : List Distribution}

/-! ### Leaving out the key zero -/

theorem entries_false (distributions : List Distribution) :
    entries false distributions = distributions.flatMap (·.toList) :=
  List.filter_eq_self.mpr fun _ _ => rfl

theorem entries_true (distributions : List Distribution) :
    entries true distributions =
      (entries false distributions).filter fun entry => !(entry.1 == 0) := by
  rw [entries_false]
  rfl

theorem compare_zero_ne (key : Int64) : decide (compare 0 key ≠ .eq) = !(key == 0) := by
  have same : compare 0 key = .eq ↔ key = 0 := Std.LawfulEqCmp.compare_eq_iff_eq.trans eq_comm
  rw [decide_not, decide_eq_decide.mpr same]
  rfl

/-- **The entries that are left when the key zero is deleted** are those that are tallied when it is
left out. -/
theorem entries_withoutZero (dropZero : Bool) (distributions : List Distribution) :
    entries dropZero (withoutZero distributions) = entries true distributions := by
  have erased : (withoutZero distributions).flatMap (·.toList) = entries true distributions := by
    rw [withoutZero, List.flatMap_map, entries_true, entries_false, List.filter_flatMap]
    congr
    funext distribution
    rw [Ascending.toList_erase]
    exact List.filter_congr fun entry _ => compare_zero_ne entry.1
  rw [entries, erased, entries_true, List.filter_filter]
  refine List.filter_congr fun entry _ => ?_
  cases dropZero <;> simp

/-- **Leaving out the key zero** is deleting it. -/
theorem of_withoutZero (dropZero : Bool) (distributions : List Distribution) :
    of dropZero (withoutZero distributions) = of true distributions := by
  rw [of_eq, of_eq, entries_withoutZero]

theorem weight_zero {entry : Int64 × UInt64} (zero : entry.1 = 0) : weight entry = 0 := by
  rw [weight, zero]
  exact Int.zero_mul _

/-- What is at the key zero adds nothing, also when the sum is at a bound. -/
theorem wideSum_true (distributions : List Distribution) :
    wideSum (weights true distributions) = wideSum (weights false distributions) := by
  rw [wideSum, wideSum, weights, weights, entries_true]
  refine saturatingSum_filter wideBounds.1 wideBounds.2 fun entry _ dropped => weight_zero ?_
  simpa using dropped

/-! ### The observations at the key zero -/

theorem observations_cons (distribution : Distribution) (rest : List Distribution) :
    observations false (distribution :: rest) =
      (distribution.toList.map fun entry => entry.2.toNat).sum + observations false rest := by
  rw [observations, observations, entries_false, entries_false, List.flatMap_cons, List.map_append,
    List.sum_append]

theorem sum_counts_eq (distribution : Distribution) :
    (distribution.toList.map fun entry => entry.2.toNat).sum =
      ((distribution.find? 0).getD 0).toNat +
        ((distribution.erase 0).toList.map fun entry => entry.2.toNat).sum := by
  cases stored : distribution.find? 0 with
  | none =>
    rw [Ascending.toList_erase_of_find?_eq_none stored]
    exact (Nat.zero_add _).symm
  | some count =>
    rw [((Ascending.perm_erase stored).map _).sum_eq, List.map_cons, List.sum_cons]
    rfl

/-- **The observations** are those that are left without the key zero, and those at it. -/
theorem observations_eq_add (distributions : List Distribution) :
    observations false distributions =
      observations false (withoutZero distributions) + zeroObservations distributions := by
  induction distributions with
  | nil => rfl
  | cons distribution rest ih =>
    have erased : withoutZero (distribution :: rest) = distribution.erase 0 :: withoutZero rest :=
      rfl
    have counted : zeroObservations (distribution :: rest) =
        ((distribution.find? 0).getD 0).toNat + zeroObservations rest := List.sum_cons
    rw [erased, counted, observations_cons, observations_cons, ih, sum_counts_eq]
    omega

/-! ### Tallies of nothing and exact tallies -/

theorem observations_eq_zero_iff :
    observations dropZero distributions = 0 ↔
      ∀ entry ∈ entries dropZero distributions, entry.2 = 0 := by
  rw [observations, List.sum_eq_zero_iff_forall_eq_nat, List.forall_mem_map]
  exact forall₂_congr fun entry _ => UInt64.toNat_inj (b := 0)

theorem count_eq_zero_iff :
    (of dropZero distributions).count = 0 ↔
      ∀ entry ∈ entries dropZero distributions, entry.2 = 0 := by
  have bound : 2 * wideBound - 1 ≠ 0 := by decide
  rw [← observations_eq_zero_iff, count_eq]
  omega

/-- Whether a tally stays within 128 bits on the way. -/
structure Exact (dropZero : Bool) (distributions : List Distribution) : Prop where
  total : StaysWithin (-wideBound) (wideBound - 1) (weights dropZero distributions)
  count : observations dropZero distributions < 2 * wideBound

theorem Exact.of_eq (exact : Exact dropZero distributions) :
    of dropZero distributions =
      ⟨(weights dropZero distributions).sum, observations dropZero distributions⟩ := by
  have total : (of dropZero distributions).total = (weights dropZero distributions).sum := by
    rw [total_eq, wideSum, saturatingSum_eq_sum exact.total]
  have count : (of dropZero distributions).count = observations dropZero distributions := by
    rw [count_eq, Nat.min_eq_right (Nat.le_sub_one_of_lt exact.count)]
  rw [← total, ← count]

/-! ### Few observations -/

theorem natAbs_weight_le (entry : Int64 × UInt64) :
    (weight entry).natAbs ≤ 2 ^ 63 * entry.2.toNat := by
  have low := entry.1.le_toInt
  have high := entry.1.toInt_lt
  have key : entry.1.toInt.natAbs ≤ 2 ^ 63 := by omega
  rw [weight, Int.natAbs_mul, Int.natAbs_natCast]
  exact Nat.mul_le_mul_right _ key

theorem sum_natAbs_weight_le (entries : List (Int64 × UInt64)) :
    ((entries.map weight).map Int.natAbs).sum ≤
      2 ^ 63 * (entries.map fun entry => entry.2.toNat).sum := by
  induction entries with
  | nil => exact Nat.le_refl 0
  | cons entry entries ih =>
    have here := natAbs_weight_le entry
    simp only [List.map_cons, List.sum_cons]
    omega

/-- **Observations of 64 bits** have a total of 128 bits, on the way too. -/
theorem Exact.of_observations (few : observations dropZero distributions < UInt64.size) :
    Exact dropZero distributions := by
  have size : UInt64.size = 2 ^ 64 := rfl
  have bound : wideBound = 2 ^ 127 := rfl
  have small := sum_natAbs_weight_le (entries dropZero distributions)
  rw [← weights, ← observations] at small
  constructor
  · apply staysWithin_of_natAbs _ _ small
    · omega
    · omega
  · omega

/-! ### Parts -/

theorem observations_eq_sum (distributions : List Distribution) :
    observations false distributions =
      (distributions.map fun distribution => observations false [distribution]).sum := by
  induction distributions with
  | nil => rfl
  | cons distribution rest ih =>
    rw [observations_cons, ih, List.map_cons, List.sum_cons, observations_cons distribution []]
    rfl

theorem sum_weights_eq_sum (distributions : List Distribution) :
    (weights false distributions).sum =
      (distributions.map fun distribution => (weights false [distribution]).sum).sum := by
  induction distributions with
  | nil => rfl
  | cons distribution rest ih =>
    have split : weights false (distribution :: rest) =
        weights false [distribution] ++ weights false rest := by
      simp only [weights, entries_false, List.flatMap_cons, List.flatMap_nil, List.append_nil,
        List.map_append]
    rw [split, List.sum_append, ih, List.map_cons, List.sum_cons]

end Tally

/-! ### Counts, totals and averages -/

variable {dropZero : Bool} {distributions : List Distribution}

theorem toNat_distributionCount (distributions : List Distribution) :
    (distributionCount distributions).toNat =
      min (UInt64.size - 1) (Tally.of false distributions).count := by
  refine UInt64.toNat_ofNat_of_lt' ?_
  have size : UInt64.size = 2 ^ 64 := rfl
  omega

theorem distributionCount_eq (distributions : List Distribution) :
    (distributionCount distributions).toNat =
      min (UInt64.size - 1) (Tally.observations false distributions) := by
  have bound : UInt64.size - 1 ≤ 2 * wideBound - 1 := by decide
  rw [toNat_distributionCount, Tally.count_eq, ← Nat.min_assoc, Nat.min_eq_left bound]

theorem distributionTotal_withoutZero (distributions : List Distribution) :
    distributionTotal (withoutZero distributions) = distributionTotal distributions := by
  rw [distributionTotal_eq, distributionTotal_eq, Tally.weights, Tally.entries_withoutZero,
    ← Tally.weights, Tally.wideSum_true]

theorem average_of_nothing (nothing : ∀ entry ∈ Tally.entries dropZero distributions, entry.2 = 0) :
    distributionAverage dropZero distributions = 0.0 :=
  if_pos (Tally.count_eq_zero_iff.mpr nothing)

theorem average_of_counted
    (counted : ∃ entry ∈ Tally.entries dropZero distributions, entry.2 ≠ 0) :
    distributionAverage dropZero distributions =
      Float.ofInt (Tally.of dropZero distributions).total /
        Float.ofNat (Tally.of dropZero distributions).count := by
  obtain ⟨entry, member, nonzero⟩ := counted
  exact if_neg fun none => nonzero (Tally.count_eq_zero_iff.mp none entry member)

theorem toInt_clampInt64_of_ne {n : Int} (low : clampInt64 n ≠ Int64.minValue)
    (high : clampInt64 n ≠ Int64.maxValue) : (clampInt64 n).toInt = n := by
  rw [ne_eq, ← Int64.toInt_inj] at low high
  rw [toInt_clampInt64, clamp] at *
  omega

/-- **The average is the total divided by the count**, if neither is at a bound. -/
theorem average_of_reported (low : distributionTotal distributions ≠ Int64.minValue)
    (high : distributionTotal distributions ≠ Int64.maxValue)
    (below : (distributionCount distributions).toNat ≠ UInt64.size - 1)
    (nonzero : distributionCount distributions ≠ 0) :
    distributionAverage false distributions =
      Float.ofInt (distributionTotal distributions).toInt /
        Float.ofNat (distributionCount distributions).toNat := by
  have total : (distributionTotal distributions).toInt = (Tally.of false distributions).total :=
    toInt_clampInt64_of_ne low high
  have count : (distributionCount distributions).toNat =
      (Tally.of false distributions).count := by
    rw [toNat_distributionCount] at below ⊢
    omega
  have counted : (Tally.of false distributions).count ≠ 0 := by
    rw [← count]
    exact fun none => nonzero (UInt64.toNat_inj.mp none)
  rw [total, count]
  exact if_neg counted

/-- What the count, the total and the average of distributions have to do with each other, and with
those of the distributions without the key zero. -/
structure Summarized (distributions : List Distribution) : Prop where
  /-- The count is the number of observations up to its bound. -/
  count : (distributionCount distributions).toNat =
    min (UInt64.size - 1) (Tally.observations false distributions)
  /-- It does not depend on the order. -/
  unordered : ∀ others, distributions.Perm others →
    distributionCount others = distributionCount distributions
  nothing : ∀ dropZero, (∀ entry ∈ Tally.entries dropZero distributions, entry.2 = 0) →
    distributionAverage dropZero distributions = 0.0
  /-- The average is the quotient of the sums that are taken in 128 bits. -/
  quotient : ∀ dropZero, (∃ entry ∈ Tally.entries dropZero distributions, entry.2 ≠ 0) →
    distributionAverage dropZero distributions =
      Float.ofInt (Tally.wideSum (Tally.weights dropZero distributions)) /
        Float.ofNat (min (2 * wideBound - 1) (Tally.observations dropZero distributions))
  /-- These are the exact sums as long as they fit. -/
  exact : ∀ dropZero, (∃ entry ∈ Tally.entries dropZero distributions, entry.2 ≠ 0) →
    Tally.Exact dropZero distributions →
      distributionAverage dropZero distributions =
        Float.ofInt (Tally.weights dropZero distributions).sum /
          Float.ofNat (Tally.observations dropZero distributions)
  reported : distributionTotal distributions ≠ Int64.minValue →
    distributionTotal distributions ≠ Int64.maxValue →
    (distributionCount distributions).toNat ≠ UInt64.size - 1 →
    distributionCount distributions ≠ 0 →
      distributionAverage false distributions =
        Float.ofInt (distributionTotal distributions).toInt /
          Float.ofNat (distributionCount distributions).toNat
  /-- Leaving out the key zero is deleting it. -/
  average_withoutZero : ∀ dropZero,
    distributionAverage dropZero (withoutZero distributions) =
      distributionAverage true distributions
  total_withoutZero :
    distributionTotal (withoutZero distributions) = distributionTotal distributions
  observations_withoutZero : Tally.observations false distributions =
    Tally.observations false (withoutZero distributions) + zeroObservations distributions
  count_withoutZero : Tally.observations false distributions < UInt64.size →
    (distributionCount distributions).toNat =
      (distributionCount (withoutZero distributions)).toNat + zeroObservations distributions

/-- **The average of distributions is the quotient of their total and their count**, and leaving out
the key zero is deleting it, whatever the distributions. -/
theorem distributions_summarized (distributions : List Distribution) :
    Summarized distributions where
  count := distributionCount_eq distributions
  unordered others perm := by
    rw [← UInt64.toNat_inj, distributionCount_eq, distributionCount_eq,
      Tally.observations_perm perm]
  nothing _ := average_of_nothing
  quotient dropZero counted := by
    rw [average_of_counted counted, Tally.total_eq, Tally.count_eq]
  exact dropZero counted exact := by
    rw [average_of_counted counted, exact.of_eq]
  reported := average_of_reported
  average_withoutZero dropZero := by
    rw [distributionAverage, distributionAverage, Tally.of_withoutZero]
  total_withoutZero := distributionTotal_withoutZero distributions
  observations_withoutZero := Tally.observations_eq_add distributions
  count_withoutZero fits := by
    rw [distributionCount_eq, distributionCount_eq]
    have parts := Tally.observations_eq_add distributions
    omega

/-- Distributions with keys of both signs and observations at the key zero. -/
def signedKeys : List Distribution :=
  [.ofList [(-1, 2), (0, 454)], .ofList [(0, 3), (1, 57)]]

/-- Of the observations here, most are at the key zero. -/
theorem signed_keys_summarized :
    (distributionCount signedKeys).toNat = 516 ∧
    (distributionCount (withoutZero signedKeys)).toNat = 59 ∧
    distributionTotal (withoutZero signedKeys) = 55 ∧
    distributionAverage false signedKeys = Float.ofInt 55 / Float.ofNat 516 ∧
    distributionAverage true signedKeys = Float.ofInt 55 / Float.ofNat 59 ∧
    distributionAverage true [.ofList [(0, 4)]] = 0.0 := by
  have total : distributionTotal signedKeys = 55 := by decide
  have summarized := distributions_summarized signedKeys
  have count : (distributionCount signedKeys).toNat = 516 := by
    rw [summarized.count]
    decide
  have kept : (distributionCount signedKeys).toNat =
      (distributionCount (withoutZero signedKeys)).toNat + 457 :=
    summarized.count_withoutZero (by decide)
  have small : ((Tally.weights true signedKeys).map Int.natAbs).sum ≤ 59 := by decide
  have exact : Tally.Exact true signedKeys :=
    ⟨staysWithin_of_natAbs (by decide) (by decide) small, by decide⟩
  refine ⟨count, by omega, summarized.total_withoutZero.trans total, ?_,
    summarized.exact true ⟨(1, 57), by decide, by decide⟩ exact,
    (distributions_summarized _).nothing true (List.all_iff_forall_prop.mp (by decide))⟩
  have nonzero : distributionCount signedKeys ≠ 0 := by
    intro none
    rw [none] at count
    cases count
  rw [summarized.reported (by rw [total]; decide) (by rw [total]; decide) (by rw [count]; decide)
    nonzero, total, count]
  rfl

end DumpDigest
