import DumpDigest.Proofs.MachineIntegers
import DumpDigest.Proofs.Value.Field

/-!
# When counters can be read

A counter can be read of a run when its field is an integer (`exists_counter_iff`), a measure when
its field is a number (`measure_eq_ok_iff`), and a sum of counters when each of them can
(`total_eq_ok_iff`, `exists_total_iff`).  A sum that fits in 64 bits is the exact one
(`toInt_total`).
-/

namespace DumpDigest

open Result

namespace Profile

variable {profile : Profile} {key : String} {keys : List String}

/-- Whether a field of a run is an integer. -/
def HasCounter (profile : Profile) (key : String) : Prop :=
  ∃ number, profile.record.find? key = some (.int number)

theorem counter_eq_ok_iff {value : Int64} :
    profile.counter key = .ok value ↔ profile.record.find? key = some (.int value) :=
  Record.int_eq_ok_iff

theorem exists_counter_iff :
    (∃ value, profile.counter key = .ok value) ↔ profile.HasCounter key := by
  simp only [counter_eq_ok_iff, HasCounter]

/-- Whether a field of a run holds this number, as a float or as an integer. -/
def HasNumber (profile : Profile) (key : String) (number : Float) : Prop :=
  profile.record.find? key = some (.float number) ∨
    ∃ integer, profile.record.find? key = some (.int integer) ∧
      Float.ofInt integer.toInt = number

theorem measure_eq_ok_iff {number : Float} :
    profile.measure key = .ok number ↔ profile.HasNumber key number :=
  Record.number_eq_ok_iff

/-- **A sum of counters** can be taken when each of them can be read. -/
theorem total_eq_ok_iff {sum : Int64} :
    profile.total keys = .ok sum ↔
      ∃ numbers, keys.mapM (profile.counter ·) = .ok numbers ∧ totalOf numbers = sum := by
  rw [total, foldlM_eq_map_mapM, map_eq_ok_iff]
  rfl

theorem exists_total_iff :
    (∃ sum, profile.total keys = .ok sum) ↔ ∀ key ∈ keys, profile.HasCounter key := by
  simp only [total_eq_ok_iff, ← exists_counter_iff, ← exists_mapM_eq_ok_iff]
  constructor
  · rintro ⟨_, numbers, read, -⟩
    exact ⟨numbers, read⟩
  · rintro ⟨numbers, read⟩
    exact ⟨_, numbers, read, rfl⟩

/-- The sum of integer fields without bounds. -/
def exactTotal (keys : List String) (profile : Profile) : Except FieldError Int :=
  (fun numbers => (numbers.map Int64.toInt).sum) <$> keys.mapM (profile.counter ·)

/-- **A sum of counters that fits in 64 bits is the exact one.** -/
theorem toInt_total {sum : Int} (summed : profile.exactTotal keys = .ok sum)
    (fits : FitsInt64 sum) : ∃ n, profile.total keys = .ok n ∧ n.toInt = sum := by
  obtain ⟨numbers, read, rfl⟩ := map_eq_ok_iff.mp summed
  refine ⟨_, total_eq_ok_iff.mpr ⟨numbers, read, rfl⟩, ?_⟩
  rw [totalOf_eq_ofInt, toInt_ofInt_of_fits fits]

end Profile

end DumpDigest
