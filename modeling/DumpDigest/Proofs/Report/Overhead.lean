import DumpDigest.Proofs.Grouping
import DumpDigest.Proofs.OptionFilter.Matching
import DumpDigest.Proofs.Profile.ThreadCount
import DumpDigest.Report.Overhead

/-!
# Overheads of element states

The reports on element states and the plain reports on overheads leave runs out in different ways.
The former group the runs at eight threads by benchmark and then drop, from the instrumented runs of
each benchmark, those without element states; the latter group what they are given, the report on
slowdown by thread count first.  `element_states_agree` is the main result: on the `compared` runs
the plain reports have the same rows.

The argument has three parts.  Dropping runs inside a group and dropping them before grouping come
to the same (`rowOfGroup_eq`, `of_eq_ofRuns`), except that a benchmark of which no run is left has
no group; such a benchmark has a baseline of zero, so the report on element states fails on it
(`compared_of_ok`).  And runs that start their suffix with a thread count are one group under the
thread count that is read from the suffix (`SlowdownReport.of_eq_ofRuns`).
-/

namespace DumpDigest

open Result

/-! ### Rows of groups -/

namespace OverheadRow

/-- The rows of the runs of each benchmark, in the order of rows. -/
def byBenchmark (rowOf : String → List Profile → Except ReportError OverheadRow)
    (profiles : List Profile) : Except ReportError (List OverheadRow) :=
  (·.mergeSort precedes) <$>
    (partition Profile.className profiles).mapM fun group => rowOf group.1 group.2

/-- The row of a benchmark's runs. -/
def ofGroup (measure : Profile → Except FieldError Float) (name benchmark : String)
    (group : List Profile) : Except ReportError OverheadRow :=
  of measure name benchmark (splitInstrumented group).1 (splitInstrumented group).2

variable {measure : Profile → Except FieldError Float} {name : String}

theorem ofRuns_eq (profiles : List Profile) :
    ofRuns measure name profiles = byBenchmark (ofGroup measure name) profiles :=
  bind_pure_comp _ _

theorem ofRuns_ne_nil {profiles : List Profile} {rows : List OverheadRow} (some : profiles ≠ [])
    (made : ofRuns measure name profiles = .ok rows) : rows ≠ [] := by
  rw [ofRuns_eq, byBenchmark] at made
  obtain ⟨unsorted, each, rfl⟩ := map_eq_ok_iff.mp made
  obtain ⟨profile, member⟩ := List.exists_mem_of_ne_nil profiles some
  have group : (profile.className, itemsAt Profile.className profile.className profiles) ∈
      partition Profile.className profiles := group_mem member
  have lengths := (mapM_eq_ok_iff.mp each).length_eq
  have count : 0 < (partition Profile.className profiles).length := List.length_pos_of_mem group
  intro none
  have gone : (unsorted.mergeSort precedes).length = 0 := by rw [none]; rfl
  rw [List.length_mergeSort] at gone
  omega

/-- Without runs there is no row, because the baseline is zero. -/
theorem ofGroup_nil (benchmark : String) :
    ofGroup measure name benchmark [] = .error (.zeroDenominator (.baseline name benchmark)) := rfl

end OverheadRow

/-! ### Compared runs -/

/-- Whether a run counts where element states are compared: an instrumented run does if it keeps
one state per element. -/
def comparable (profile : Profile) : Bool :=
  !(profile.option? "noInstrument" = some "false" &&
    profile.option? "arrayIndexStates" ≠ some "true")

theorem comparable_iff {profile : Profile} :
    comparable profile = true ↔
      (profile.option? "noInstrument" = some "false" →
        profile.option? "arrayIndexStates" = some "true") := by
  by_cases instrumented : profile.option? "noInstrument" = some "false"
  · simp [comparable, instrumented]
  · simp [comparable, instrumented]

/-- The runs that a report on element states compares. -/
def compared (profiles : List Profile) : List Profile :=
  (profiles.filter (·.runsWith ElementStatesReport.threadCount)).filter comparable

theorem runs_of_mem_compared (profiles : List Profile) :
    ∀ profile ∈ compared profiles, profile.runsWith ElementStatesReport.threadCount = true := by
  intro profile member
  exact (List.mem_filter.mp (List.mem_filter.mp member).1).2

namespace ElementStatesReport

/-- The row of a benchmark's runs when only those with element states count of the instrumented. -/
def rowOfGroup (measure : ElementMeasure) (benchmark : String) (group : List Profile) :
    Except ReportError OverheadRow :=
  OverheadRow.of measure.ofRun measure.name benchmark
    (bisect (·.shows (wanting "arrayIndexStates" "true")) (splitInstrumented group).1).1
    (splitInstrumented group).2

theorem of_eq (measure : ElementMeasure) (profiles : List Profile) :
    of measure profiles =
      (fun rows => ⟨measure, threadCount, rows⟩) <$>
        OverheadRow.byBenchmark (rowOfGroup measure)
          (profiles.filter (·.runsWith threadCount)) := by
  rw [OverheadRow.byBenchmark, ← comp_map]
  exact bind_pure_comp _ _

/-- **Leaving out the runs that are not compared** leaves the row as it is. -/
theorem rowOfGroup_eq (measure : ElementMeasure) (benchmark : String) (group : List Profile) :
    rowOfGroup measure benchmark group =
      OverheadRow.ofGroup measure.ofRun measure.name benchmark (group.filter comparable) := by
  have instrumented :
      (group.filter fun profile => profile.shows (wanting "noInstrument" "false")).filter
        (fun profile => profile.shows (wanting "arrayIndexStates" "true")) =
      (group.filter comparable).filter
        fun profile => profile.shows (wanting "noInstrument" "false") := by
    rw [List.filter_filter, List.filter_filter]
    refine List.filter_congr fun profile _ => Bool.eq_iff_iff.mpr ?_
    rw [Bool.and_eq_true, Bool.and_eq_true, comparable_iff, Profile.shows_wanting_iff,
      Profile.shows_wanting_iff]
    constructor
    · rintro ⟨states, instrumented⟩
      exact ⟨instrumented, fun _ => states⟩
    · rintro ⟨instrumented, states⟩
      exact ⟨states instrumented, instrumented⟩
  have baseline : (group.filter fun profile => !profile.shows (wanting "noInstrument" "false")) =
      (group.filter comparable).filter
        fun profile => !profile.shows (wanting "noInstrument" "false") := by
    rw [List.filter_filter]
    refine List.filter_congr fun profile _ => Bool.eq_iff_iff.mpr ?_
    rw [Bool.and_eq_true, comparable_iff, Bool.not_eq_true', Bool.eq_false_iff, ne_eq,
      Profile.shows_wanting_iff]
    constructor
    · intro plain
      exact ⟨plain, fun instrumented => absurd instrumented plain⟩
    · exact fun both => both.1
  simp only [rowOfGroup, OverheadRow.ofGroup, splitInstrumented, bisect]
  rw [instrumented, baseline]

variable {measure : ElementMeasure} {profiles : List Profile}

theorem of_eq_ofRuns
    (left : ∀ profile ∈ profiles, profile.runsWith threadCount = true →
      ∃ other ∈ compared profiles, other.className = profile.className) :
    of measure profiles =
      (fun rows => ⟨measure, threadCount, rows⟩) <$>
        OverheadRow.ofRuns measure.ofRun measure.name (compared profiles) := by
  have groups : partition Profile.className (compared profiles) =
      (partition Profile.className (profiles.filter (·.runsWith threadCount))).map fun group =>
        (group.1, group.2.filter comparable) := by
    refine partition_filter fun profile member => ?_
    obtain ⟨inProfiles, runs⟩ := List.mem_filter.mp member
    obtain ⟨other, inCompared, same⟩ := left profile inProfiles runs
    obtain ⟨selected, kept⟩ := List.mem_filter.mp inCompared
    exact ⟨other, selected, kept, same⟩
  rw [of_eq, OverheadRow.ofRuns_eq, OverheadRow.byBenchmark, OverheadRow.byBenchmark, groups,
    List.mapM_map]
  simp only [rowOfGroup_eq]
  rfl

/-- A report that is made has a compared run of every benchmark, because without one the baseline of
the benchmark would be zero. -/
theorem compared_of_ok {report : ElementStatesReport} (made : of measure profiles = .ok report)
    {profile : Profile} (member : profile ∈ profiles) (runs : profile.runsWith threadCount = true) :
    ∃ other ∈ compared profiles, other.className = profile.className := by
  rw [of_eq, OverheadRow.byBenchmark] at made
  obtain ⟨_, sorted, -⟩ := map_eq_ok_iff.mp made
  obtain ⟨rows, each, -⟩ := map_eq_ok_iff.mp sorted
  have selected : profile ∈ profiles.filter (·.runsWith threadCount) :=
    List.mem_filter.mpr ⟨member, runs⟩
  obtain ⟨row, here⟩ := exists_mapM_eq_ok_iff.mp ⟨rows, each⟩ _ (group_mem selected)
  rw [rowOfGroup_eq] at here
  -- The group has a row, so it has a run that is compared: of no runs there is no row.
  cases left : (itemsAt Profile.className profile.className
      (profiles.filter (·.runsWith threadCount))).filter comparable with
  | nil =>
    rw [left, OverheadRow.ofGroup_nil] at here
    cases here
  | cons other others =>
    have found : other ∈ (itemsAt Profile.className profile.className
        (profiles.filter (·.runsWith threadCount))).filter comparable := by
      rw [left]
      exact List.mem_cons_self
    obtain ⟨inGroup, kept⟩ := List.mem_filter.mp found
    obtain ⟨inSelected, same⟩ := mem_itemsAt.mp inGroup
    exact ⟨other, List.mem_filter.mpr ⟨inSelected, kept⟩, Std.LawfulEqCmp.eq_of_compare same⟩

end ElementStatesReport

/-! ### One thread count -/

namespace SlowdownReport

variable {profiles : List Profile}

theorem of_eq_mapM {groups : List (UInt32 × List Profile)}
    (grouped : tryPartition Profile.threadCount profiles = .ok groups) :
    of profiles =
      mk <$> groups.mapM fun group =>
        ThreadGroup.mk group.1 <$> OverheadRow.ofRuns Profile.runtime "runtime" group.2 := by
  simp only [← bind_pure_comp]
  rw [of, grouped]
  rfl

/-- The report with one thread count, and without rows with none. -/
def single (threads : UInt32) (rows : List OverheadRow) : SlowdownReport :=
  ⟨if rows = [] then [] else [⟨threads, rows⟩]⟩

/-- **Runs with one thread count make one group**, if there are any. -/
theorem of_eq_ofRuns {threads : UInt32}
    (runs : ∀ profile ∈ profiles, profile.runsWith threads = true) :
    of profiles = single threads <$> OverheadRow.ofRuns Profile.runtime "runtime" profiles := by
  have groups : tryPartition Profile.threadCount profiles =
      .ok (partition (fun _ => threads) profiles) :=
    tryPartition_eq_ok fun profile member => Profile.threadCount_of_runsWith (runs profile member)
  rw [of_eq_mapM groups]
  by_cases none : profiles = []
  · subst none
    have rows : OverheadRow.ofRuns Profile.runtime "runtime" [] = .ok [] := by
      show Except.ok (([] : List OverheadRow).mergeSort OverheadRow.precedes) = _
      rw [List.mergeSort_nil]
    rw [rows]
    rfl
  · rw [partition_const threads none, List.mapM_cons, List.mapM_nil]
    cases made : OverheadRow.ofRuns Profile.runtime "runtime" profiles with
    | error error => rfl
    | ok rows =>
      have some : rows ≠ [] := OverheadRow.ofRuns_ne_nil none made
      show Except.ok (mk [⟨threads, rows⟩]) = Except.ok (single threads rows)
      rw [single, if_neg some]

end SlowdownReport

/-! ### Element states against plain overheads -/

/-- **The reports on element states are the plain reports** on peak memory and on slowdown, of the
compared runs.  A report that is made has the rows that the plain report has.  In the other
direction every benchmark with a run at eight threads has to keep one among the compared runs, since
the plain report does not see a benchmark without runs, while the report on element states fails on
it. -/
theorem element_states_agree (profiles : List Profile) :
    (∀ report, ElementStatesReport.of .peakMemory profiles = .ok report →
      MemoryReport.of (compared profiles) = .ok ⟨report.rows⟩) ∧
    (∀ report, ElementStatesReport.of .runtime profiles = .ok report →
      SlowdownReport.of (compared profiles) = .ok (.single 8 report.rows)) ∧
    ((∀ profile ∈ profiles, profile.runsWith 8 = true →
        ∃ other ∈ compared profiles, other.className = profile.className) →
      (∀ report, MemoryReport.of (compared profiles) = .ok report →
        ElementStatesReport.of .peakMemory profiles = .ok ⟨.peakMemory, 8, report.rows⟩) ∧
      ∀ report, SlowdownReport.of (compared profiles) = .ok report →
        ∃ rows, report = .single 8 rows ∧
          ElementStatesReport.of .runtime profiles = .ok ⟨.runtime, 8, rows⟩) := by
  have memory : MemoryReport.of (compared profiles) =
      MemoryReport.mk <$> OverheadRow.ofRuns Profile.peakMemory "peak memory" (compared profiles) :=
    bind_pure_comp _ _
  have slowdown := SlowdownReport.of_eq_ofRuns (runs_of_mem_compared profiles)
  refine ⟨fun report made => ?_, fun report made => ?_, fun left =>
    ⟨fun report made => ?_, fun report made => ?_⟩⟩
  · rw [ElementStatesReport.of_eq_ofRuns fun _ => ElementStatesReport.compared_of_ok made] at made
    obtain ⟨rows, plain, rfl⟩ := map_eq_ok_iff.mp made
    rw [memory]
    exact map_eq_ok_iff.mpr ⟨rows, plain, rfl⟩
  · rw [ElementStatesReport.of_eq_ofRuns fun _ => ElementStatesReport.compared_of_ok made] at made
    obtain ⟨rows, plain, rfl⟩ := map_eq_ok_iff.mp made
    rw [slowdown]
    exact map_eq_ok_iff.mpr ⟨rows, plain, rfl⟩
  · rw [memory] at made
    obtain ⟨rows, plain, rfl⟩ := map_eq_ok_iff.mp made
    rw [ElementStatesReport.of_eq_ofRuns left]
    exact map_eq_ok_iff.mpr ⟨rows, plain, rfl⟩
  · rw [slowdown] at made
    obtain ⟨rows, plain, rfl⟩ := map_eq_ok_iff.mp made
    rw [ElementStatesReport.of_eq_ofRuns left]
    exact ⟨rows, rfl, map_eq_ok_iff.mpr ⟨rows, plain, rfl⟩⟩

/-- A run of one benchmark at eight threads that costs as much time as memory. -/
def runAtEight (noInstrument arrayIndexStates : String) (cost : Int64) : Profile where
  record := .ofList [("Memory peak", .int cost), ("Premain to fini time", .int cost)]
  options := .ofList
    [("noInstrument", .string noInstrument), ("arrayIndexStates", .string arrayIndexStates),
      (suffixOption, .string "-8-threads-prof-0.py")]
  mainClass := "Counter"
  source := ⟨"counter.py"⟩

/-- Three runs, of which the second has states for whole arrays only and is not compared. -/
def counterRuns : List Profile :=
  [runAtEight "false" "true" 3, runAtEight "false" "false" 5, runAtEight "true" "false" 2]

/-- The second run does not count, in either direction. -/
theorem counter_runs_agree :
    MemoryReport.of (compared counterRuns) = .ok ⟨[⟨"Counter", 1.5⟩]⟩ ∧
      SlowdownReport.of (compared counterRuns) = .ok (.single 8 [⟨"Counter", 1.5⟩]) ∧
      ElementStatesReport.of .peakMemory counterRuns = .ok ⟨.peakMemory, 8, [⟨"Counter", 1.5⟩]⟩ ∧
      ∃ rows, SlowdownReport.single 8 [⟨"Counter", 1.5⟩] = .single 8 rows ∧
        ElementStatesReport.of .runtime counterRuns = .ok ⟨.runtime, 8, rows⟩ := by
  obtain ⟨memory, slowdown, back⟩ := element_states_agree counterRuns
  have made : ∀ measure, ElementStatesReport.of measure counterRuns =
      .ok ⟨measure, 8, [⟨"Counter", 1.5⟩]⟩ := by
    intro measure
    have rows : (partition Profile.className
        (counterRuns.filter (·.runsWith ElementStatesReport.threadCount))).mapM (fun group =>
          ElementStatesReport.rowOfGroup measure group.1 group.2) =
        .ok [⟨"Counter", 1.5⟩] := by
      cases measure <;> rfl
    have sorted : [⟨"Counter", 1.5⟩].mergeSort OverheadRow.precedes = [⟨"Counter", 1.5⟩] :=
      List.mergeSort_singleton _
    rw [ElementStatesReport.of_eq, OverheadRow.byBenchmark, rows]
    exact congrArg (fun rows => Except.ok (ElementStatesReport.mk measure 8 rows)) sorted
  have left : ∀ profile ∈ counterRuns, profile.runsWith 8 = true →
      ∃ other ∈ compared counterRuns, other.className = profile.className := by
    have kept : compared counterRuns =
        [runAtEight "false" "true" 3, runAtEight "true" "false" 2] := rfl
    intro profile member _
    refine ⟨_, kept ▸ List.mem_cons_self, ?_⟩
    simp only [counterRuns, List.mem_cons, List.not_mem_nil, or_false] at member
    rcases member with rfl | rfl | rfl <;> rfl
  have plainMemory := memory _ (made .peakMemory)
  have plainSlowdown := slowdown _ (made .runtime)
  exact ⟨plainMemory, plainSlowdown, (back left).1 _ plainMemory, (back left).2 _ plainSlowdown⟩

end DumpDigest
