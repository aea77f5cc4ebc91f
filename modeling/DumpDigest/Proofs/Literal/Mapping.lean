import DumpDigest.Proofs.Literal.Grammar
import DumpDigest.Proofs.Result
import DumpDigest.Proofs.SortedMap.Lookup

/-!
# What the entries of a mapping make

`mappingValue_eq_ok_iff`: entries have a value exactly when the grammar gives them one, and then it
is the same.  The record and the distribution are told apart by the kinds of their keys, for which
`recordEntries?` and `integerEntries?` are read backwards; what is stored at a key is settled by
`find?_ofList`.
-/

namespace DumpDigest.Literal

open Result

/-! ### Keys of one kind -/

theorem recordEntries?_eq_some_iff {entries : List (Key × Value)}
    {fields : List (String × Value)} :
    recordEntries? entries = some fields ↔
      entries = fields.map fun (key, value) => (.string key, value) := by
  refine mapM_eq_some_iff ?_
  rintro ⟨key, value⟩ ⟨text, held⟩
  cases key <;> simp [Key.string?]

theorem integerEntries?_eq_some_iff {entries : List (Key × Value)}
    {fields : List (Int64 × Value)} :
    integerEntries? entries = some fields ↔
      entries = fields.map fun (key, value) => (.int key, value) := by
  refine mapM_eq_some_iff ?_
  rintro ⟨key, value⟩ ⟨number, held⟩
  cases key <;> simp [Key.int?]

/-! ### Counts -/

theorem toUInt64_of_nonneg {number : Int64} (counts : 0 ≤ number) :
    UInt64.ofNat number.toNatClampNeg = number.toUInt64 := by
  rw [← UInt64.toNat_inj, ← Int64.toNat_toBitVec number, Int64.toNat_toBitVec_of_le counts]
  have small := number.toNatClampNeg_lt
  exact UInt64.toNat_ofNat_of_lt (Nat.lt_of_lt_of_le small (by decide))

theorem asCount_eq_ok_iff {key : Int64} {value : Value} {count : UInt64} :
    asCount key value = .ok count ↔
      ∃ number, value = .int number ∧ 0 ≤ number ∧ number.toUInt64 = count := by
  cases value with
  | int number =>
    rw [asCount]
    split
    · next negative =>
      constructor
      · intro h
        cases h
      · rintro ⟨_, h, counts, -⟩
        obtain rfl := Value.int.inj h
        exact absurd counts (Int64.not_le.mpr negative)
    · next counts =>
      rw [Int64.not_lt] at counts
      rw [toUInt64_of_nonneg counts]
      constructor
      · intro h
        exact ⟨number, rfl, counts, Except.ok.inj h⟩
      · rintro ⟨_, h, -, rfl⟩
        obtain rfl := Value.int.inj h
        rfl
  | _ =>
    constructor
    · intro h
      cases h
    · rintro ⟨_, h, -⟩
      cases h

/-- The entries of a distribution are read as counts exactly when their values are integers that are
not negative. -/
theorem mapM_asCount_eq_ok_iff {fields : List (Int64 × Value)} {counts : List (Int64 × UInt64)} :
    fields.mapM (fun (key, value) => (key, ·) <$> asCount key value) = .ok counts ↔
      ∃ numbers : List (Int64 × Int64), (∀ entry ∈ numbers, 0 ≤ entry.2) ∧
        fields = numbers.map (fun (key, number) => (key, .int number)) ∧
        counts = numbers.map fun (key, number) => (key, number.toUInt64) := by
  rw [mapM_eq_ok_iff]
  constructor
  · intro h
    induction h with
    | nil => exact ⟨[], by simp, rfl, rfl⟩
    | @cons field count fields counts here there ih =>
      obtain ⟨numbers, counted, rfl, rfl⟩ := ih
      obtain ⟨key, value⟩ := field
      obtain ⟨count, read, rfl⟩ := map_eq_ok_iff.mp here
      obtain ⟨number, rfl, nonneg, rfl⟩ := asCount_eq_ok_iff.mp read
      refine ⟨(key, number) :: numbers, ?_, rfl, rfl⟩
      intro entry he
      rcases List.mem_cons.mp he with rfl | he
      · exact nonneg
      · exact counted entry he
  · rintro ⟨numbers, counted, rfl, rfl⟩
    rw [List.forall₂_map_left_iff, List.forall₂_map_right_iff, List.forall₂_same]
    intro entry he
    exact map_eq_ok_iff.mpr ⟨_, asCount_eq_ok_iff.mpr ⟨_, rfl, counted entry he, rfl⟩, rfl⟩

theorem lookup_map_snd {κ α β : Type} [BEq κ] (change : α → β) (entries : List (κ × α)) (key : κ) :
    (entries.map fun (k, held) => (k, change held)).lookup key =
      (entries.lookup key).map change := by
  induction entries with
  | nil => rfl
  | cons entry entries ih =>
    rw [List.map_cons, List.lookup_cons, List.lookup_cons, ih]
    cases key == entry.1 <;> rfl

/-! ### Mappings -/

theorem recordEntries?_eq_none_of_int {entries : List (Int64 × Value)} (nonempty : entries ≠ []) :
    recordEntries? (entries.map fun (key, value) => (Key.int key, value)) = none := by
  cases entries with
  | nil => exact absurd rfl nonempty
  | cons entry entries => rfl

theorem mappingMeans_of_mappingValue {entries : List (Key × Value)} {value : Value}
    (h : mappingValue entries = .ok value) : MappingMeans entries value := by
  unfold mappingValue at h
  split at h
  · next fields keys =>
    obtain rfl := Except.ok.inj h
    rw [recordEntries?_eq_some_iff.mp keys]
    exact .record (SortedMap.find?_ofList fields)
  · next notRecord =>
    split at h
    · cases h
    · next fields keys =>
      obtain ⟨counts, read, done⟩ := bind_eq_ok_iff.mp h
      obtain rfl := Except.ok.inj done
      obtain ⟨numbers, counted, rfl, rfl⟩ := mapM_asCount_eq_ok_iff.mp read
      have entries_eq := integerEntries?_eq_some_iff.mp keys
      rw [List.map_map] at entries_eq
      subst entries_eq
      refine .distribution ?_ counted fun key => ?_
      · rintro rfl
        cases notRecord
      · rw [SortedMap.find?_ofList, ← List.map_reverse, lookup_map_snd]

theorem mappingValue_of_strings (fields : List (String × Value)) :
    mappingValue (fields.map fun (key, value) => (.string key, value)) =
      .ok (.record (SortedMap.ofList fields)) := by
  have keys := recordEntries?_eq_some_iff.mpr (rfl : fields.map _ = _)
  simp only [mappingValue, keys]

theorem mappingValue_of_integers {numbers : List (Int64 × Int64)} (nonempty : numbers ≠ [])
    (counted : ∀ entry ∈ numbers, 0 ≤ entry.2) :
    mappingValue (numbers.map fun (key, number) => (.int key, .int number)) =
      .ok (.distribution
        (SortedMap.ofList (numbers.map fun (key, number) => (key, number.toUInt64)))) := by
  have entries_eq : (numbers.map fun (key, number) => (Key.int key, Value.int number)) =
      (numbers.map fun (key, number) => (key, Value.int number)).map
        fun (key, value) => (Key.int key, value) := by
    rw [List.map_map]
    rfl
  have keys := integerEntries?_eq_some_iff.mpr entries_eq
  have notRecord : recordEntries?
      (numbers.map fun (key, number) => (Key.int key, Value.int number)) = none := by
    rw [entries_eq]
    exact recordEntries?_eq_none_of_int (by simpa using nonempty)
  simp only [mappingValue, notRecord, keys]
  exact bind_eq_ok_iff.mpr ⟨_, mapM_asCount_eq_ok_iff.mpr ⟨numbers, counted, rfl, rfl⟩, rfl⟩

/-- **A mapping stands for what the grammar says.** -/
theorem mappingValue_eq_ok_iff {entries : List (Key × Value)} {value : Value} :
    mappingValue entries = .ok value ↔ MappingMeans entries value := by
  constructor
  · exact mappingMeans_of_mappingValue
  · intro h
    cases h with
    | @record fields map stored => rw [mappingValue_of_strings, SortedMap.ofList_eq stored]
    | @distribution numbers map nonempty counted stored =>
      rw [mappingValue_of_integers nonempty counted, SortedMap.ofList_eq fun key => ?_]
      rw [stored, ← List.map_reverse, lookup_map_snd]

end DumpDigest.Literal
