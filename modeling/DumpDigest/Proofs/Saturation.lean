import DumpDigest.Distribution.Tally
import Mathlib.Algebra.BigOperators.Group.List.Basic
import Mathlib.Algebra.GroupWithZero.Nat
import Mathlib.Algebra.Order.BigOperators.Group.List
import Mathlib.Algebra.Order.Group.Nat
import Mathlib.Algebra.Ring.Int.Defs
import Mathlib.Data.List.Induction

/-!
# Sums that are held within bounds

A saturating sum is brought back into its bounds after every summand.  What it has lost at a bound
it does not get back, so it is the exact sum brought into the bounds only as long as no summand
leads back from beyond a bound.  `StaysOut` says that none does, and `saturatingSum_eq_clamp` is the
step from the fold to the sum.

Integers of one sign never lead back (`staysOut_of_nonneg`, `staysOut_of_nonpos`), and integers
whose absolute values together are within the bounds never lead beyond them, in whatever order they
are added (`staysWithin_of_natAbs`).  The latter is why such sums do not depend on the order
(`saturatingSum_perm`).
-/

namespace DumpDigest

variable {low high : Int} {numbers others : List Int}

/-- The sum of integers, brought back into bounds after every one of them. -/
def saturatingSum (low high : Int) (numbers : List Int) : Int :=
  numbers.foldl (fun sum n => clamp low high (sum + n)) 0

/-- Whether no integer leads the sum of those in front of it back from beyond a bound. -/
def StaysOut (low high : Int) (numbers : List Int) : Prop :=
  ∀ front back, numbers = front ++ back →
    (high < front.sum → ∀ n ∈ back, 0 ≤ n) ∧ (front.sum < low → ∀ n ∈ back, n ≤ 0)

/-- Whether the sum of integers is within bounds on the way. -/
def StaysWithin (low high : Int) (numbers : List Int) : Prop :=
  ∀ front back, numbers = front ++ back → low ≤ front.sum ∧ front.sum ≤ high

theorem saturatingSum_concat (n : Int) :
    saturatingSum low high (numbers ++ [n]) =
      clamp low high (saturatingSum low high numbers + n) := by
  rw [saturatingSum, List.foldl_append]
  rfl

theorem clamp_of_within {n : Int} (above : low ≤ n) (below : n ≤ high) : clamp low high n = n := by
  simp only [clamp]
  omega

/-- Bringing a sum into bounds before the next integer is added makes no difference if this does not
lead back from beyond a bound. -/
theorem clamp_clamp_add {sum n : Int} (bounds : low ≤ high) (above : high < sum → 0 ≤ n)
    (below : sum < low → n ≤ 0) :
    clamp low high (clamp low high sum + n) = clamp low high (sum + n) := by
  simp only [clamp]
  omega

/-! ### Saturating sums as exact sums -/

theorem StaysOut.front {n : Int} (stays : StaysOut low high (numbers ++ [n])) :
    StaysOut low high numbers := by
  intro front back split
  obtain ⟨above, below⟩ := stays front (back ++ [n]) (by rw [split, List.append_assoc])
  exact ⟨fun out m member => above out m (List.mem_append_left _ member),
    fun out m member => below out m (List.mem_append_left _ member)⟩

/-- **A saturating sum is the exact sum brought into the bounds**, if no integer leads back from
beyond a bound. -/
theorem saturatingSum_eq_clamp (negative : low ≤ 0) (positive : 0 ≤ high)
    (stays : StaysOut low high numbers) :
    saturatingSum low high numbers = clamp low high numbers.sum := by
  induction numbers using List.reverseRecOn with
  | nil => exact (clamp_of_within negative positive).symm
  | append_singleton numbers n ih =>
    obtain ⟨above, below⟩ := stays numbers [n] rfl
    rw [saturatingSum_concat, ih stays.front, List.sum_append, List.sum_singleton]
    exact clamp_clamp_add (Int.le_trans negative positive)
      (fun out => above out n (List.mem_singleton_self n))
      fun out => below out n (List.mem_singleton_self n)

theorem StaysWithin.staysOut (within : StaysWithin low high numbers) :
    StaysOut low high numbers := by
  intro front back split
  obtain ⟨above, below⟩ := within front back split
  exact ⟨fun out => absurd out (Int.not_lt.mpr below), fun out => absurd out (Int.not_lt.mpr above)⟩

/-- **A saturating sum that stays within the bounds is the exact sum.** -/
theorem saturatingSum_eq_sum (within : StaysWithin low high numbers) :
    saturatingSum low high numbers = numbers.sum := by
  obtain ⟨negative, positive⟩ := within [] numbers rfl
  obtain ⟨above, below⟩ := within numbers [] (List.append_nil numbers).symm
  rw [saturatingSum_eq_clamp negative positive within.staysOut, clamp_of_within above below]

theorem saturatingSum_within (negative : low ≤ 0) (positive : 0 ≤ high) (numbers : List Int) :
    low ≤ saturatingSum low high numbers ∧ saturatingSum low high numbers ≤ high := by
  cases numbers using List.reverseRecOn with
  | nil => exact ⟨negative, positive⟩
  | append_singleton numbers n =>
    rw [saturatingSum_concat, clamp]
    omega

/-- Items that count for nothing may be left out. -/
theorem saturatingSum_filter {α : Type} (negative : low ≤ 0) (positive : 0 ≤ high)
    {weight : α → Int} {keeps : α → Bool} {items : List α}
    (light : ∀ item ∈ items, keeps item = false → weight item = 0) :
    saturatingSum low high ((items.filter keeps).map weight) =
      saturatingSum low high (items.map weight) := by
  induction items using List.reverseRecOn with
  | nil => rfl
  | append_singleton items item ih =>
    obtain ⟨before, here⟩ := List.forall_mem_append.mp light
    rw [List.filter_append, List.map_append, List.map_append, List.map_singleton,
      saturatingSum_concat, ← ih before]
    cases kept : keeps item with
    | true =>
      rw [List.filter_cons_of_pos kept, List.filter_nil, List.map_singleton, saturatingSum_concat]
    | false =>
      have left := saturatingSum_within negative positive ((items.filter keeps).map weight)
      rw [here item (List.mem_singleton_self item) kept, Int.add_zero,
        clamp_of_within left.1 left.2, List.filter_cons_of_neg (Bool.eq_false_iff.mp kept),
        List.filter_nil, List.map_nil, List.append_nil]

/-! ### Integers that do not lead back -/

theorem staysOut_of_nonneg (negative : low ≤ 0) (each : ∀ n ∈ numbers, 0 ≤ n) :
    StaysOut low high numbers := by
  rintro front back rfl
  obtain ⟨before, behind⟩ := List.forall_mem_append.mp each
  have sum : 0 ≤ front.sum := List.sum_nonneg before
  exact ⟨fun _ => behind, fun out => by omega⟩

theorem staysOut_of_nonpos (positive : 0 ≤ high) (each : ∀ n ∈ numbers, n ≤ 0) :
    StaysOut low high numbers := by
  rintro front back rfl
  obtain ⟨before, behind⟩ := List.forall_mem_append.mp each
  have sum : front.sum ≤ 0 := by simpa using List.sum_le_card_nsmul front 0 before
  exact ⟨fun out => by omega, fun _ => behind⟩

theorem natAbs_sum_le (numbers : List Int) :
    numbers.sum.natAbs ≤ (numbers.map Int.natAbs).sum := by
  induction numbers with
  | nil => exact Nat.le_refl 0
  | cons n numbers ih =>
    rw [List.sum_cons, List.map_cons, List.sum_cons]
    exact (Int.natAbs_add_le n numbers.sum).trans (Nat.add_le_add_left ih n.natAbs)

theorem sum_natAbs_le_of_sublist (part : others.Sublist numbers) :
    (others.map Int.natAbs).sum ≤ (numbers.map Int.natAbs).sum :=
  (part.map Int.natAbs).sum_le_sum fun n _ => Nat.zero_le n

theorem staysWithin_of_natAbs {bound : Nat} (negative : low ≤ -bound) (positive : bound ≤ high)
    (small : (numbers.map Int.natAbs).sum ≤ bound) : StaysWithin low high numbers := by
  rintro front back rfl
  rw [List.map_append, List.sum_append] at small
  have front_le := natAbs_sum_le front
  omega

/-- **A saturating sum does not depend on the order** of integers whose absolute values add up to no
more than the bounds. -/
theorem saturatingSum_perm {bound : Nat} (negative : low ≤ -bound) (positive : bound ≤ high)
    (small : (numbers.map Int.natAbs).sum ≤ bound) (perm : numbers.Perm others) :
    saturatingSum low high numbers = saturatingSum low high others := by
  have small' : (others.map Int.natAbs).sum ≤ bound := by rwa [← (perm.map Int.natAbs).sum_eq]
  rw [saturatingSum_eq_sum (staysWithin_of_natAbs negative positive small),
    saturatingSum_eq_sum (staysWithin_of_natAbs negative positive small'), perm.sum_eq]

end DumpDigest
