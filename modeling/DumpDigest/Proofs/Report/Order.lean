import DumpDigest.Proofs.Distribution.Average
import DumpDigest.Proofs.Report.Caches
import DumpDigest.Proofs.Report.Checks
import DumpDigest.Report.Stacks
import Mathlib.Data.List.Flatten

/-!
# Reports and the order of runs

Runs are pooled: by benchmark, by mode, and altogether.  The order of the runs is that within each
pool, so a report depends on it where a pool does, and nowhere else.  Counters are added up within
64 bits and keys times counts within 128, and such sums do not depend on the order as long as they
cannot reach a bound, whatever the order is.  This is what `Bounded` and `TotalBounded` say: the
absolute values together are within the bound.

What does depend on the order is which error is reported, if there are several, so the results agree
in the sense of `SucceedAlike`.  `pooled_reports_unordered` is the main result.
-/

namespace DumpDigest

open Result

variable {runs others : List Profile}

/-! ### Sums over runs -/

section Sums

variable {counter : Profile → Except FieldError Int64}
  {histogram : Profile → Except FieldError Distribution}

/-- Whether the absolute values of a counter over runs are together within 64 bits; runs of which it
cannot be read do not count. -/
def Bounded (counter : Profile → Except FieldError Int64) (runs : List Profile) : Prop :=
  ((((successes counter runs).map Int64.toInt).map Int.natAbs).sum : Int) ≤ Int64.maxValue.toInt

instance (counter : Profile → Except FieldError Int64) (runs : List Profile) :
    Decidable (Bounded counter runs) :=
  inferInstanceAs (Decidable (_ ≤ _))

/-- Whether the absolute values of keys times counts over runs are together within 128 bits. -/
def TotalBounded (histogram : Profile → Except FieldError Distribution) (runs : List Profile) :
    Prop :=
  ((Tally.weights false (successes histogram runs)).map Int.natAbs).sum < wideBound

instance (histogram : Profile → Except FieldError Distribution) (runs : List Profile) :
    Decidable (TotalBounded histogram runs) :=
  inferInstanceAs (Decidable (_ < _))

theorem Bounded.part {part : List Profile} (bounded : Bounded counter runs)
    (within : part.Sublist runs) : Bounded counter part := by
  have less := sum_natAbs_le_of_sublist
    ((within.filterMap fun run => (counter run).toOption).map Int64.toInt)
  exact (Int.ofNat_le.mpr less).trans bounded

theorem TotalBounded.part {part : List Profile} (bounded : TotalBounded histogram runs)
    (within : part.Sublist runs) : TotalBounded histogram part := by
  have entries : (Tally.entries false (successes histogram part)).Sublist
      (Tally.entries false (successes histogram runs)) :=
    ((within.filterMap _).flatMap _).filter _
  exact (sum_natAbs_le_of_sublist (entries.map Tally.weight)).trans_lt bounded

/-- **A sum that cannot reach a bound does not depend on the order.** -/
theorem alike_sumOf (perm : runs.Perm others) (bounded : Bounded counter runs) :
    SucceedAlike (sumOf counter runs) (sumOf counter others) := by
  have low : Int64.minValue.toInt ≤ -Int64.maxValue.toInt := by decide
  rw [sumOf_eq, sumOf_eq]
  refine alike_of_perm perm (Int64.toInt_inj.mp ?_)
  rw [toInt_foldl_saturatingAdd, toInt_foldl_saturatingAdd]
  exact saturatingSum_perm (low.trans (Int.neg_le_neg bounded)) bounded le_rfl
    ((successes_perm perm).map _)

/-- **Nor does the average of a histogram** whose total cannot reach one. -/
theorem alike_average (perm : runs.Perm others) (bounded : TotalBounded histogram runs) :
    SucceedAlike (distributionAverage false <$> runs.mapM histogram)
      (distributionAverage false <$> others.mapM histogram) := by
  refine alike_of_perm perm ?_
  rw [distributionAverage, distributionAverage, Tally.of_perm bounded (successes_perm perm)]

end Sums

/-! ### The report on the array cache -/

/-- Whether no sum of hits or misses can reach a bound. -/
structure CachesBounded (runs : List Profile) : Prop where
  hits : ∀ mode : StateMode, Bounded Profile.arrayHits (mode.runs runs)
  misses : ∀ mode : StateMode, Bounded Profile.arrayMisses (mode.runs runs)

theorem CachesBounded.part {part : List Profile} (bounded : CachesBounded runs)
    (within : part.Sublist runs) : CachesBounded part :=
  ⟨fun mode => (bounded.hits mode).part (within.filter _),
    fun mode => (bounded.misses mode).part (within.filter _)⟩

namespace CacheRow

variable {name mode : String}

theorem alike_hitRate (perm : runs.Perm others) (hits : Bounded Profile.arrayHits runs)
    (misses : Bounded Profile.arrayMisses runs) :
    SucceedAlike (hitRate name mode runs) (hitRate name mode others) := by
  rw [hitRate_eq, hitRate_eq]
  refine (alike_sumOf perm hits).mapError.bind fun _ => ?_
  exact (alike_sumOf perm misses).mapError.bind fun _ => .refl _

theorem alike_of (perm : runs.Perm others) (bounded : CachesBounded runs) :
    SucceedAlike (of name runs) (of name others) := by
  have rate : ∀ (label : String) (mode : StateMode),
      SucceedAlike (hitRate name label (mode.runs runs)) (hitRate name label (mode.runs others)) :=
    fun _ mode => alike_hitRate (perm.filter _) (bounded.hits mode) (bounded.misses mode)
  simp only [of, StateMode.splitArrayStates_eq]
  exact (rate _ .array).bind fun _ => (rate _ .index).bind fun _ => .refl _

end CacheRow

theorem CachesReport.alike_of (perm : runs.Perm others) (bounded : CachesBounded runs) :
    SucceedAlike (of runs) (of others) := by
  intro report
  rw [of_eq_ok_iff, of_eq_ok_iff]
  refine and_congr (alike_rowsBy perm (fun name => ?_) _) (CacheRow.alike_of perm bounded _)
  exact CacheRow.alike_of (perm.filter _) (bounded.part List.filter_sublist)

/-! ### The report on checks -/

/-- Whether no sum of checks can reach a bound. -/
def ChecksBounded (runs : List Profile) : Prop :=
  ∀ (counter : CheckCounter) (mode : StateMode), Bounded counter.read (mode.runs runs)

theorem ChecksBounded.part {part : List Profile} (bounded : ChecksBounded runs)
    (within : part.Sublist runs) : ChecksBounded part :=
  fun counter mode => (bounded counter mode).part (within.filter _)

theorem CheckFractions.alike_of {label : String} (perm : runs.Perm others)
    (bounded : ∀ counter : CheckCounter, Bounded counter.read runs) :
    SucceedAlike (of label runs) (of label others) := by
  have share : ∀ checks counter,
      SucceedAlike (shareOf label runs checks counter) (shareOf label others checks counter) :=
    fun checks counter => (alike_sumOf perm (bounded counter)).mapError.bind fun _ => .refl _
  rw [of_eq, of_eq]
  refine (alike_sumOf perm (bounded .all)).mapError.bind fun checks => ?_
  refine (share checks _).bind fun _ => (share checks _).bind fun _ => ?_
  exact (share checks _).bind fun _ => (share checks _).bind fun _ => .refl _

theorem ChecksRow.alike_of {name : String} (perm : runs.Perm others)
    (bounded : ChecksBounded runs) : SucceedAlike (of name runs) (of name others) := by
  have half : ∀ (label : String) (mode : StateMode),
      SucceedAlike (CheckFractions.of label (mode.runs runs))
        (CheckFractions.of label (mode.runs others)) :=
    fun _ mode => CheckFractions.alike_of (perm.filter _) fun counter => bounded counter mode
  simp only [of, StateMode.splitArrayStates_eq]
  exact (half _ .array).bind fun _ => (half _ .index).bind fun _ => .refl _

theorem ChecksRow.ofSuite_eq (runs : List Profile) :
    ofSuite runs = rowsBy Profile.capitalizedBenchmark of runs :=
  rfl

theorem ChecksReport.alike_of (perm : runs.Perm others) (bounded : ChecksBounded runs) :
    SucceedAlike (of runs) (of others) := by
  have suite : ∀ suite : Suite, SucceedAlike (ChecksRow.ofSuite (suite.runs runs))
      (ChecksRow.ofSuite (suite.runs others)) := by
    intro suite
    rw [ChecksRow.ofSuite_eq, ChecksRow.ofSuite_eq]
    refine alike_rowsBy (perm.filter _) fun name => ?_
    refine ChecksRow.alike_of ((perm.filter _).filter _) (bounded.part ?_)
    exact List.filter_sublist.trans List.filter_sublist
  simp only [of, Suite.bisect_eq]
  refine (suite .javaGrande).bind fun _ => (suite .daCapo).bind fun _ => ?_
  exact (ChecksRow.alike_of perm bounded).bind fun _ => .refl _

/-! ### The report on stacks -/

/-- Whether no total of a histogram of stacks can reach a bound. -/
structure StackTotalsBounded (runs : List Profile) : Prop where
  lengths : TotalBounded Profile.segmentLengths runs
  depths : TotalBounded Profile.stackDepths runs
  segments : TotalBounded Profile.segmentCounts runs

theorem StackTotalsBounded.part {part : List Profile} (bounded : StackTotalsBounded runs)
    (within : part.Sublist runs) : StackTotalsBounded part :=
  ⟨bounded.lengths.part within, bounded.depths.part within, bounded.segments.part within⟩

theorem StackShapeRow.of_eq (name : String) (runs : List Profile) :
    of name runs =
      distributionAverage false <$> runs.mapM Profile.segmentLengths >>= fun lengths =>
        distributionAverage false <$> runs.mapM Profile.stackDepths >>= fun depths =>
          distributionAverage false <$> runs.mapM Profile.segmentCounts >>= fun segments =>
            .ok ⟨name, lengths, depths, segments⟩ := by
  simp only [of, bind_map_left]
  rfl

theorem StackShapeRow.alike_of {name : String} (perm : runs.Perm others)
    (bounded : StackTotalsBounded runs) : SucceedAlike (of name runs) (of name others) := by
  rw [of_eq, of_eq]
  refine (alike_average perm bounded.lengths).bind fun _ => ?_
  refine (alike_average perm bounded.depths).bind fun _ => ?_
  exact (alike_average perm bounded.segments).bind fun _ => .refl _

theorem StacksReport.alike_of (perm : runs.Perm others)
    (bounded : ∀ name, StackTotalsBounded (classRuns name runs)) :
    SucceedAlike (of runs) (of others) := by
  have rows :
      SucceedAlike
        ((partition Profile.className runs).mapM fun group => StackShapeRow.of group.1 group.2)
        ((partition Profile.className others).mapM fun group =>
          StackShapeRow.of group.1 group.2) := by
    refine alike_partition perm fun name => StackShapeRow.alike_of (perm.filter _) ?_
    rw [itemsAt_eq_runsOf (fun _ _ => rfl), runsOf_className]
    exact bounded name
  exact rows.mapError.bind fun _ => .refl _

/-- **The order of the runs does not matter** to the reports on the array cache, on checks and on
stacks: there is a report on runs if and only if there is one on the same runs in another order, and
then it is the same.  No sum that is taken over a pool of the runs may be able to reach a bound. -/
theorem pooled_reports_unordered (perm : runs.Perm others) :
    (CachesBounded runs → SucceedAlike (CachesReport.of runs) (CachesReport.of others)) ∧
    (ChecksBounded runs → SucceedAlike (ChecksReport.of runs) (ChecksReport.of others)) ∧
    ((∀ name, StackTotalsBounded (classRuns name runs)) →
      SucceedAlike (StacksReport.of runs) (StacksReport.of others)) :=
  ⟨CachesReport.alike_of perm, ChecksReport.alike_of perm, StacksReport.alike_of perm⟩

/-- A run with stacks of the given depths in methods, in segments of two. -/
def stackedRun (mainClass : String) (depths : List (Int64 × UInt64)) : Profile where
  record := .ofList [("Length in methods of stack segments", .distribution (.ofList [(2, 5)])),
    ("Communicating stack depths", .distribution (.ofList depths)),
    ("Segments on a communicating stack",
      .distribution (.ofList (depths.map fun entry => (entry.1 / 2, entry.2))))]
  options := .ofList []
  mainClass := mainClass
  source := ⟨"run.py"⟩

/-- Runs of two benchmarks, two of them of one. -/
def stackedRuns : List Profile :=
  [stackedRun "JGFCryptBenchSizeA" [(2, 3), (4, 1)], stackedRun "Counter" [(8, 2)],
    stackedRun "JGFCryptBenchSizeA" [(0, 1), (6, 3)]]

/-- The report on these runs. -/
def stacksReport : StacksReport :=
  ⟨[⟨"Counter", Float.ofInt 10 / Float.ofInt 5, Float.ofInt 16 / Float.ofInt 2,
      Float.ofInt 8 / Float.ofInt 2⟩,
    ⟨"Crypt", Float.ofInt 20 / Float.ofInt 10, Float.ofInt 28 / Float.ofInt 8,
      Float.ofInt 14 / Float.ofInt 8⟩]⟩

/-- The reports on runs of several benchmarks in both modes, from the last run to the first. -/
theorem reversed_runs_reported :
    CachesReport.of cachedRuns.reverse = .ok cachedReport ∧
    ChecksReport.of checkedRuns.reverse = .ok checkedReport ∧
    StacksReport.of stackedRuns.reverse = .ok stacksReport := by
  have caches : CachesBounded cachedRuns := by
    constructor <;> rw [StateMode.forall_iff] <;> decide +kernel
  have checks : ChecksBounded checkedRuns := by
    simp only [ChecksBounded, CheckCounter.forall_iff, StateMode.forall_iff]
    decide +kernel
  have stacked : StackTotalsBounded stackedRuns := by
    constructor <;> decide +kernel
  obtain ⟨cachesAlike, -, -⟩ := pooled_reports_unordered (List.reverse_perm cachedRuns).symm
  obtain ⟨-, checksAlike, -⟩ := pooled_reports_unordered (List.reverse_perm checkedRuns).symm
  obtain ⟨-, -, stacksAlike⟩ := pooled_reports_unordered (List.reverse_perm stackedRuns).symm
  refine ⟨(cachesAlike caches _).mp of_cachedRuns, (checksAlike checks _).mp of_checkedRuns, ?_⟩
  exact (stacksAlike (fun name => stacked.part List.filter_sublist) _).mp rfl

end DumpDigest
