import DumpDigest.Proofs.MachineIntegers
import DumpDigest.Proofs.Profile.States
import DumpDigest.Proofs.Result
import DumpDigest.Proofs.Saturation
import Mathlib.Data.List.Infix

/-!
# Ratios and sums over runs

Reports sum a counter over runs and stay within 64 bits after every run.  `exactSum` is the sum
without bounds.  The two are the same as long as no sum on the way leaves 64 bits, which is
`Steady`; `toInt_sumOf` says so, failures included.  It goes by way of the saturating sum of
what is read of the runs, which is what is found in any case (`sumOf_eq`).

The sum over all runs is the sum over parts of them, if every run is in one part (`exactSum_parts`).
Reports sum most runs twice, once for a row of their own and once for a row over everything; this is
why the rows add up.
-/

namespace DumpDigest

open Result

variable {counter : Profile → Except FieldError Int64} {runs : List Profile} {sum : Int}

theorem sum_modEq {α : Type} {items : List α} {modulus : Int} {first second : α → Int}
    (each : ∀ item ∈ items, first item ≡ second item [ZMOD modulus]) :
    (items.map first).sum ≡ (items.map second).sum [ZMOD modulus] := by
  rw [Int.ModEq, List.sum_int_mod, List.sum_int_mod (items.map second), List.map_map, List.map_map]
  exact congrArg (List.sum · % modulus) (List.map_congr_left each)

/-- **A ratio can be taken** when its denominator is not zero, and then it is the quotient. -/
theorem ratio_eq_ok_iff {numerator denominator result : Float} {quantity : Quantity} :
    ratio numerator denominator quantity = .ok result ↔
      (denominator == 0.0) = false ∧ result = numerator / denominator := by
  rw [ratio]
  cases zero : denominator == 0.0 with
  | true => simp
  | false => simp [eq_comm]

/-! ### The sum without bounds -/

/-- A counter summed over runs without bounds. -/
def exactSum (counter : Profile → Except FieldError Int64) (runs : List Profile) :
    Except FieldError Int :=
  (fun numbers => (numbers.map Int64.toInt).sum) <$> runs.mapM counter

theorem exactSum_of_read {value : Profile → Int64}
    (read : ∀ run ∈ runs, counter run = .ok (value run)) :
    exactSum counter runs = .ok (runs.map fun run => (value run).toInt).sum := by
  have each : runs.mapM counter = .ok (runs.map value) := by
    refine mapM_eq_ok_iff.mpr (List.forall₂_map_right_iff.mpr (List.forall₂_same.mpr ?_))
    exact read
  rw [exactSum, each]
  show Except.ok ((runs.map value).map Int64.toInt).sum = _
  rw [List.map_map]
  rfl

theorem exists_exactSum_iff :
    (∃ sum, exactSum counter runs = .ok sum) ↔ ∀ run ∈ runs, ∃ n, counter run = .ok n := by
  simp only [exactSum, exists_map_eq_ok_iff, exists_mapM_eq_ok_iff]

/-- **A counter has a sum over runs** when it can be read of each of them, and then it is the sum of
what is read. -/
theorem exactSum_eq_ok_iff :
    exactSum counter runs = .ok sum ↔
      ∃ value : Profile → Int64, (∀ run ∈ runs, counter run = .ok (value run)) ∧
        (runs.map fun run => (value run).toInt).sum = sum := by
  constructor
  · intro summed
    have each := exists_exactSum_iff.mp ⟨sum, summed⟩
    choose! value read using each
    rw [exactSum_of_read read] at summed
    exact ⟨value, read, Except.ok.inj summed⟩
  · rintro ⟨value, read, rfl⟩
    exact exactSum_of_read read

/-! ### The sum within 64 bits -/

/-- Whether the sum of a counter over runs stays within 64 bits on the way. -/
def Steady (counter : Profile → Except FieldError Int64) (runs : List Profile) : Prop :=
  ∀ front, front <+: runs → ∀ sum ∈ (exactSum counter front).toOption, FitsInt64 sum

instance (counter : Profile → Except FieldError Int64) (runs : List Profile) :
    Decidable (Steady counter runs) :=
  decidable_of_iff
    (∀ front ∈ runs.inits, ∀ sum ∈ (exactSum counter front).toOption, FitsInt64 sum)
    (by simp only [List.mem_inits, Steady])

theorem toInt_foldl_saturatingAdd (numbers : List Int64) :
    (numbers.foldl saturatingAdd 0).toInt =
      saturatingSum Int64.minValue.toInt Int64.maxValue.toInt (numbers.map Int64.toInt) := by
  have step : ∀ first second : Int64, (saturatingAdd first second).toInt =
      clamp Int64.minValue.toInt Int64.maxValue.toInt (first.toInt + second.toInt) :=
    fun _ _ => toInt_clampInt64 _
  rw [saturatingSum, List.foldl_map]
  exact (List.foldl_hom Int64.toInt fun first second => (step first second).symm).symm

/-- The sum of a counter is the saturating sum of what is read of each run. -/
theorem sumOf_eq : sumOf counter runs = List.foldl saturatingAdd 0 <$> runs.mapM counter :=
  foldlM_eq_map_mapM

/-- What is read of runs whose sum stays within 64 bits stays so, too. -/
theorem Steady.staysWithin (steady : Steady counter runs) {numbers : List Int64}
    (read : runs.mapM counter = .ok numbers) :
    StaysWithin Int64.minValue.toInt Int64.maxValue.toInt (numbers.map Int64.toInt) := by
  intro front back split
  obtain ⟨first, second, rfl, rfl, rfl⟩ := List.map_eq_append_iff.mp split
  have heads := List.forall₂_take first.length (mapM_eq_ok_iff.mp read)
  rw [List.take_left] at heads
  have summed : exactSum counter (runs.take first.length) =
      .ok (first.map Int64.toInt).sum := by
    rw [exactSum, mapM_eq_ok_iff.mpr heads]
    rfl
  exact steady _ (List.take_prefix ..) _ (toOption_eq_some_iff.mpr summed)

/-- **A sum that stays within 64 bits is the sum without bounds.** -/
theorem toInt_sumOf (steady : Steady counter runs) :
    Int64.toInt <$> sumOf counter runs = exactSum counter runs := by
  rw [sumOf_eq, exactSum]
  cases read : runs.mapM counter with
  | error error => rfl
  | ok numbers =>
    refine congrArg Except.ok ?_
    rw [toInt_foldl_saturatingAdd, saturatingSum_eq_sum (steady.staysWithin read)]

theorem sumOf_eq_ok_iff (steady : Steady counter runs) {n : Int64} :
    sumOf counter runs = .ok n ↔ exactSum counter runs = .ok n.toInt := by
  rw [← toInt_sumOf steady, map_eq_ok_iff]
  constructor
  · intro summed
    exact ⟨n, summed, rfl⟩
  · rintro ⟨value, summed, same⟩
    rwa [← Int64.toInt_inj.mp same]

/-! ### Sums of parts -/

theorem flatMap_filter_perm {α κ : Type} [DecidableEq κ] (key : α → κ) {keys : List κ}
    {items : List α} (distinct : keys.Nodup) (covered : ∀ item ∈ items, key item ∈ keys) :
    (keys.flatMap fun wanted => items.filter fun item => key item = wanted).Perm items := by
  induction keys generalizing items with
  | nil =>
    have none : items = [] := List.eq_nil_iff_forall_not_mem.mpr fun item member =>
      absurd (covered item member) (by simp)
    rw [none]
    rfl
  | cons first keys ih =>
    obtain ⟨new, distinct⟩ := List.nodup_cons.mp distinct
    -- The items that do not have the first key are covered by the other keys.
    have others : ∀ item ∈ items.filter (fun item => !decide (key item = first)),
        key item ∈ keys := by
      intro item member
      obtain ⟨inItems, differs⟩ := List.mem_filter.mp member
      rcases List.mem_cons.mp (covered item inItems) with same | inKeys
      · simp [same] at differs
      · exact inKeys
    have perm := ih distinct others
    have same : ∀ wanted ∈ keys, (items.filter fun item => !decide (key item = first)).filter
        (fun item => key item = wanted) = items.filter fun item => key item = wanted := by
      intro wanted member
      rw [List.filter_filter]
      refine List.filter_congr fun item _ => ?_
      by_cases here : key item = wanted
      · have differs : wanted ≠ first := by
          rintro rfl
          exact new member
        simp [here, differs]
      · simp [here]
    rw [List.flatMap_congr same] at perm
    rw [List.flatMap_cons]
    exact (perm.append_left _).trans (List.filter_append_perm _ items)

/-- **The sum over runs is the sum over parts of them**, if the parts are told apart by a key that
is one of theirs for every run. -/
theorem exactSum_parts {ι κ : Type} [DecidableEq κ] (key : Profile → κ) {parts : List ι}
    {keyOf : ι → κ} {value : ι → Int} (distinct : (parts.map keyOf).Nodup)
    (covered : ∀ run ∈ runs, key run ∈ parts.map keyOf)
    (summed : ∀ part ∈ parts,
      exactSum counter (runs.filter fun run => key run = keyOf part) = .ok (value part)) :
    exactSum counter runs = .ok (parts.map value).sum := by
  have each : ∀ run ∈ runs, ∃ n, counter run = .ok n := by
    intro run member
    obtain ⟨part, inParts, same⟩ := List.mem_map.mp (covered run member)
    have here := exists_exactSum_iff.mp ⟨_, summed part inParts⟩
    exact here run (List.mem_filter.mpr ⟨member, decide_eq_true same.symm⟩)
  choose! number read using each
  have split : ∀ part ∈ parts,
      ((runs.filter fun run => key run = keyOf part).map fun run => (number run).toInt).sum =
        value part := by
    intro part member
    have here := summed part member
    rw [exactSum_of_read fun run inPart => read run (List.mem_filter.mp inPart).1] at here
    exact Except.ok.inj here
  have perm := flatMap_filter_perm key distinct covered
  rw [List.flatMap_map] at perm
  let exact := fun run => (number run).toInt
  rw [exactSum_of_read read]
  congr 1
  calc (runs.map exact).sum
    _ = ((parts.flatMap fun part => runs.filter fun run => key run = keyOf part).map exact).sum :=
      (perm.map exact).sum_eq.symm
    _ = (parts.map fun part =>
          ((runs.filter fun run => key run = keyOf part).map exact).sum).sum := by
      rw [List.map_flatMap, List.flatMap_def, List.sum_flatten, List.map_map]
      rfl
    _ = (parts.map value).sum := by rw [List.map_congr_left split]

/-! ### The runs that are summed -/

/-- The runs that a report sums over, where it splits them by mode: all of one mode, and those of
one mode in the group of each run. -/
def pools (group : Profile → List Profile) (profiles : List Profile) : List (List Profile) :=
  (profiles :: profiles.map group).flatMap fun runs =>
    [StateMode.array.runs runs, StateMode.index.runs runs]

theorem mem_pools_iff {group : Profile → List Profile} {profiles pool : List Profile} :
    pool ∈ pools group profiles ↔
      ∃ mode : StateMode, pool = mode.runs profiles ∨
        ∃ profile ∈ profiles, pool = mode.runs (group profile) := by
  have modes : ∀ runs, pool ∈ [StateMode.array.runs runs, StateMode.index.runs runs] ↔
      ∃ mode : StateMode, pool = mode.runs runs := by
    intro runs
    simp only [List.mem_cons, List.not_mem_nil, or_false]
    constructor
    · rintro (here | here)
      · exact ⟨.array, here⟩
      · exact ⟨.index, here⟩
    · rintro ⟨mode, here⟩
      cases mode with
      | array => exact .inl here
      | index => exact .inr here
  simp only [pools, List.mem_flatMap, List.mem_cons, List.mem_map, modes]
  constructor
  · rintro ⟨_, rfl | ⟨profile, member, rfl⟩, mode, here⟩
    · exact ⟨mode, .inl here⟩
    · exact ⟨mode, .inr ⟨profile, member, here⟩⟩
  · rintro ⟨mode, here | ⟨profile, member, here⟩⟩
    · exact ⟨profiles, .inl rfl, mode, here⟩
    · exact ⟨group profile, .inr ⟨profile, member, rfl⟩, mode, here⟩

end DumpDigest
