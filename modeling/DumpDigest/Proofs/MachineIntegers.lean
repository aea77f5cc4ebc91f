import DumpDigest.Report.Aggregate
import Mathlib.Algebra.BigOperators.Group.List.Basic
import Mathlib.Data.Int.ModEq
import Mathlib.Data.List.Induction
import Mathlib.Order.Defs.PartialOrder

/-!
# Integers of 64 bits

A sum or a difference of integers of 64 bits is the integer that the last 64 bits of the exact one
stand for (`add_eq_ofInt`, `totalOf_eq_ofInt`), which is the exact one if that has 64 bits
(`toInt_ofInt_of_fits`, `toInt_sub_of_fits`).  Integers with the same last 64 bits are those that
are congruent modulo `2 ^ 64` (`ofInt_eq_ofInt_iff`).
-/

namespace DumpDigest

/-- Whether an integer has 64 bits. -/
def FitsInt64 (n : Int) : Prop :=
  Int64.minValue.toInt ≤ n ∧ n ≤ Int64.maxValue.toInt

instance (n : Int) : Decidable (FitsInt64 n) :=
  inferInstanceAs (Decidable (_ ∧ _))

/-- What holds of the integer in an option is decided at this one; there are too many integers to go
through them. -/
instance (priority := 1100) decidableForallMemInt64 {p : Int64 → Prop} [DecidablePred p]
    (found : Option Int64) : Decidable (∀ n ∈ found, p n) :=
  found.decidableForallMem

theorem minValue_toInt : Int64.minValue.toInt = -2 ^ 63 := by
  decide

theorem maxValue_toInt : Int64.maxValue.toInt = 2 ^ 63 - 1 := by
  decide

theorem toInt_ofInt_of_fits {n : Int} (fits : FitsInt64 n) : (Int64.ofInt n).toInt = n := by
  rw [FitsInt64, minValue_toInt, maxValue_toInt] at fits
  exact Int64.toInt_ofInt_of_le fits.1 (by omega)

theorem toInt_clampInt64 (n : Int) :
    (clampInt64 n).toInt = clamp Int64.minValue.toInt Int64.maxValue.toInt n := by
  refine toInt_ofInt_of_fits ?_
  rw [FitsInt64, clamp, minValue_toInt, maxValue_toInt]
  omega

theorem clampInt64_of_fits {n : Int} (fits : FitsInt64 n) : (clampInt64 n).toInt = n := by
  obtain ⟨low, high⟩ := fits
  rw [toInt_clampInt64, clamp]
  omega

/-- **Taking the last 64 bits** tells integers apart up to congruence. -/
theorem ofInt_eq_ofInt_iff {first second : Int} :
    Int64.ofInt first = Int64.ofInt second ↔ first ≡ second [ZMOD 2 ^ 64] := by
  have last : ∀ n : Int, n.bmod Int64.size % (2 ^ 64 : Int) = n % 2 ^ 64 := fun _ => Int.bmod_emod
  rw [← Int64.toInt_inj, Int64.toInt_ofInt, Int64.toInt_ofInt, Int.ModEq]
  constructor
  · intro same
    rw [← last first, same, last]
  · intro same
    have congruent := congrArg (Int.bmod · Int64.size) same
    rwa [← Int.emod_bmod, ← @Int.emod_bmod second]

/-! ### Sums and differences -/

variable {first second : Int64}

theorem add_eq_ofInt (first second : Int64) :
    first + second = Int64.ofInt (first.toInt + second.toInt) := by
  rw [Int64.ofInt_add, Int64.ofInt_toInt, Int64.ofInt_toInt]

/-- **A difference that has 64 bits is the exact one.** -/
theorem toInt_sub_of_fits (fits : FitsInt64 (first.toInt - second.toInt)) :
    (first - second).toInt = first.toInt - second.toInt := by
  have same : first - second = Int64.ofInt (first.toInt - second.toInt) := by
    rw [Int64.ofInt_sub, Int64.ofInt_toInt, Int64.ofInt_toInt]
  rw [same, toInt_ofInt_of_fits fits]

/-- **The sum of integers of 64 bits** is the exact one modulo `2 ^ 64`. -/
theorem totalOf_eq_ofInt (numbers : List Int64) :
    totalOf numbers = Int64.ofInt (numbers.map Int64.toInt).sum := by
  induction numbers using List.reverseRecOn with
  | nil => rfl
  | append_singleton numbers n ih =>
    rw [totalOf, List.foldl_append, List.foldl_cons, List.foldl_nil, ← totalOf, ih,
      List.map_append, List.sum_append, List.map_singleton, List.sum_singleton, Int64.ofInt_add,
      Int64.ofInt_toInt]

/-- The sum of counts of 64 bits is the exact one if that has 64 bits, too. -/
theorem toNat_totalOf {numbers : List UInt64}
    (fits : (numbers.map UInt64.toNat).sum < UInt64.size) :
    (totalOf numbers).toNat = (numbers.map UInt64.toNat).sum := by
  induction numbers using List.reverseRecOn with
  | nil => rfl
  | append_singleton numbers n ih =>
    rw [List.map_append, List.sum_append, List.map_singleton, List.sum_singleton] at fits ⊢
    have front : (totalOf numbers).toNat = (numbers.map UInt64.toNat).sum := ih (by omega)
    rw [totalOf, List.foldl_append, List.foldl_cons, List.foldl_nil, ← totalOf, UInt64.toNat_add,
      front, Nat.mod_eq_of_lt fits]

/-! ### Order -/

instance partialOrderInt64 : PartialOrder Int64 where
  le := (· ≤ ·)
  lt := (· < ·)
  le_refl := Int64.le_refl
  le_trans _ _ _ := Int64.le_trans
  le_antisymm _ _ := Int64.le_antisymm
  lt_iff_le_not_ge _ _ := Std.LawfulOrderLT.lt_iff ..

instance lawfulOrderMaxInt64 : Std.LawfulOrderMax Int64 where
  max_eq_or first second := by
    show (if first ≤ second then second else first) = first ∨ _
    split
    · exact .inr (if_pos ‹_›)
    · exact .inl rfl
  max_le_iff first second bound := by
    show (if first ≤ second then second else first) ≤ bound ↔ _
    simp only [Int64.le_iff_toInt_le]
    split
    · omega
    · omega

end DumpDigest
