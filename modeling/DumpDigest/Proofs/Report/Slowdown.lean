import DumpDigest.Proofs.Profile.Counters
import DumpDigest.Proofs.Report.Aggregate
import DumpDigest.Proofs.Report.Benchmarks
import DumpDigest.Proofs.Report.Overhead

/-!
# The report on slowdown

The report divides, for each thread count and benchmark, the time of the instrumented runs by that
of the others.  `slowdown_reported` says when there is a report and what it shows.

A sum over runs is the fold over what is read of each (`measureOf_eq_ok_iff`), so the row of some
runs is known from two such sums (`OverheadRow.ofGroup_eq_ok_iff`).  The rest is `rowsBy`, once for
the benchmarks and once for the thread counts.  The rows by benchmark ascend before they are sorted,
which therefore does not move them (`OverheadRow.ofRuns_eq_rowsBy`).

Runs that are selected by their thread count have no group but that of the selection
(`runs_count_as_selected`).
-/

namespace DumpDigest

open Result

/-! ### Sides -/

/-- The two sides of a ratio. -/
inductive Side where
  | instrumented
  | baseline
  deriving DecidableEq

namespace Side

/-- The side of a run, which is that of the baseline unless an option says otherwise. -/
def of (profile : Profile) : Side :=
  if profile.option? "noInstrument" = some "false" then instrumented else baseline

/-- The runs on a side. -/
def runs (side : Side) (profiles : List Profile) : List Profile :=
  profiles.filter fun profile => of profile = side

theorem mem_runs {side : Side} {profiles : List Profile} {profile : Profile} :
    profile ∈ side.runs profiles ↔ profile ∈ profiles ∧ of profile = side := by
  rw [runs, List.mem_filter, decide_eq_true_eq]

/-- **The split into instrumented and baseline runs** is the one by side. -/
theorem splitInstrumented_eq (profiles : List Profile) :
    splitInstrumented profiles = (instrumented.runs profiles, baseline.runs profiles) := by
  refine bisect_eq_filter (by decide) (fun profile => ?_) profiles
  by_cases told : profile.option? "noInstrument" = some "false"
  · rw [of, if_pos told, if_pos (Profile.shows_wanting_iff.mpr told)]
  · rw [of, if_neg told, if_neg (mt Profile.shows_wanting_iff.mp told)]

end Side

variable {key name benchmark : String} {runs : List Profile}

/-! ### Sums -/

/-- Whether a sum is that of a number field over runs, added from zero run by run. -/
def SumsTo (key : String) (runs : List Profile) (sum : Float) : Prop :=
  ∃ numbers, List.Forall₂ (fun run number => run.HasNumber key number) runs numbers ∧
    numbers.foldl (· + ·) 0.0 = sum

theorem measureOf_eq_ok_iff {sum : Float} :
    measureOf (Profile.measure key) runs = .ok sum ↔ SumsTo key runs sum := by
  rw [measureOf, foldlM_eq_map_mapM, map_eq_ok_iff]
  simp only [mapM_eq_ok_iff, Profile.measure_eq_ok_iff, SumsTo]

theorem exists_sumsTo_iff :
    (∃ sum, SumsTo key runs sum) ↔ ∀ run ∈ runs, ∃ number, run.HasNumber key number := by
  simp only [← measureOf_eq_ok_iff, measureOf, foldlM_eq_map_mapM, exists_map_eq_ok_iff,
    exists_mapM_eq_ok_iff, Profile.measure_eq_ok_iff]

/-- Whether a ratio is the overhead of the instrumented runs over the others, whose sum is not
zero. -/
def IsOverhead (key : String) (runs : List Profile) (ratio : Float) : Prop :=
  ∃ cost base, SumsTo key (Side.instrumented.runs runs) cost ∧
    SumsTo key (Side.baseline.runs runs) base ∧ (base == 0.0) = false ∧ ratio = cost / base

theorem exists_isOverhead_iff :
    (∃ ratio, IsOverhead key runs ratio) ↔
      (∀ run ∈ runs, ∃ number, run.HasNumber key number) ∧
        ∃ base, SumsTo key (Side.baseline.runs runs) base ∧ (base == 0.0) = false := by
  constructor
  · rintro ⟨_, cost, base, costs, bases, some, -⟩
    refine ⟨fun run member => ?_, base, bases, some⟩
    -- Either sum was read of all runs on its side, and there is no third side.
    cases side : Side.of run with
    | instrumented =>
      exact exists_sumsTo_iff.mp ⟨cost, costs⟩ run (Side.mem_runs.mpr ⟨member, side⟩)
    | baseline => exact exists_sumsTo_iff.mp ⟨base, bases⟩ run (Side.mem_runs.mpr ⟨member, side⟩)
  · rintro ⟨each, base, bases, some⟩
    have costs : ∃ cost, SumsTo key (Side.instrumented.runs runs) cost :=
      exists_sumsTo_iff.mpr fun run member => each run (Side.mem_runs.mp member).1
    obtain ⟨cost, costs⟩ := costs
    exact ⟨_, cost, base, costs, bases, some, rfl⟩

/-! ### Rows -/

namespace OverheadRow

theorem ofGroup_eq_ok_iff {row : OverheadRow} :
    ofGroup (Profile.measure key) name benchmark runs = .ok row ↔
      row.benchmark = benchmark ∧ IsOverhead key runs row.ratio := by
  have unfolded : ofGroup (Profile.measure key) name benchmark runs =
      (measureOf (Profile.measure key) (splitInstrumented runs).1).mapError .field >>= fun cost =>
        (measureOf (Profile.measure key) (splitInstrumented runs).2).mapError .field >>= fun base =>
          mk benchmark <$> DumpDigest.ratio cost base (.baseline name benchmark) := by
    simp only [← bind_pure_comp]
    rfl
  simp only [unfolded, Side.splitInstrumented_eq, bind_eq_ok_iff, map_eq_ok_iff,
    mapError_eq_ok_iff, measureOf_eq_ok_iff, ratio_eq_ok_iff]
  constructor
  · rintro ⟨cost, costs, base, bases, _, ⟨some, rfl⟩, rfl⟩
    exact ⟨rfl, cost, base, costs, bases, some, rfl⟩
  · rintro ⟨rfl, cost, base, costs, bases, some, quotient⟩
    exact ⟨cost, costs, base, bases, _, ⟨some, quotient⟩, rfl⟩

theorem exists_ofGroup_iff :
    (∃ row, ofGroup (Profile.measure key) name benchmark runs = .ok row) ↔
      (∀ run ∈ runs, ∃ number, run.HasNumber key number) ∧
        ∃ base, SumsTo key (Side.baseline.runs runs) base ∧ (base == 0.0) = false := by
  rw [← exists_isOverhead_iff]
  simp only [ofGroup_eq_ok_iff]
  constructor
  · rintro ⟨row, -, overhead⟩
    exact ⟨row.ratio, overhead⟩
  · rintro ⟨ratio, overhead⟩
    exact ⟨⟨benchmark, ratio⟩, rfl, overhead⟩

theorem precedes_of_lt {first second : OverheadRow} (below : first.benchmark < second.benchmark) :
    precedes first second = true := by
  have order : compare first.benchmark second.benchmark = .lt := compareOfLessAndEq_eq_lt.mpr below
  rw [precedes, order]

/-- **Sorting does not move the rows of the benchmarks**, which ascend before. -/
theorem ofRuns_eq_rowsBy :
    ofRuns (Profile.measure key) name runs =
      rowsBy (fun run => .ok run.className) (ofGroup (Profile.measure key) name) runs := by
  rw [ofRuns_eq, byBenchmark, ← rowsBy_ok]
  cases made : rowsBy (fun run => .ok run.className) (ofGroup (Profile.measure key) name) runs with
  | error error => rfl
  | ok rows =>
    -- Names ascend strictly, so the ratio is never looked at.
    have by_class : RowsBy (fun run => .ok run.className) (ofGroup (Profile.measure key) name)
        OverheadRow.benchmark runs rows :=
      rowsBy_eq_ok (fun rowMade => (ofGroup_eq_ok_iff.mp rowMade).1) made
    refine congrArg Except.ok (List.mergeSort_of_pairwise ?_)
    exact (List.pairwise_map.mp by_class.sorted).imp precedes_of_lt

end OverheadRow

/-! ### Groups -/

/-- The runs that name a thread count. -/
def threadRuns (threads : UInt32) (profiles : List Profile) : List Profile :=
  profiles.filter (·.NamesThreads threads)

theorem mem_threadRuns {threads : UInt32} {profiles : List Profile} {profile : Profile} :
    profile ∈ threadRuns threads profiles ↔ profile ∈ profiles ∧ profile.NamesThreads threads := by
  rw [threadRuns, List.mem_filter, decide_eq_true_eq]

theorem runsOf_threadCount (threads : UInt32) (profiles : List Profile) :
    runsOf Profile.threadCount threads profiles = threadRuns threads profiles :=
  runsOf_eq_filter (fun _ => Profile.threadCount_eq_ok_iff) profiles

/-- The runs of a benchmark at a thread count. -/
def pairRuns (threads : UInt32) (benchmark : String) (profiles : List Profile) : List Profile :=
  classRuns benchmark (threadRuns threads profiles)

theorem mem_pairRuns {threads : UInt32} {profiles : List Profile} {profile : Profile} :
    profile ∈ pairRuns threads benchmark profiles ↔
      profile ∈ profiles ∧ profile.NamesThreads threads ∧ profile.className = benchmark := by
  rw [pairRuns, classRuns, List.mem_filter, mem_threadRuns, decide_eq_true_eq, and_assoc]

/-- The field that the report sums. -/
def runtimeKey : String := "Premain to fini time"

namespace ThreadGroup

/-- The group of the runs at a thread count. -/
def of (threads : UInt32) (runs : List Profile) : Except ReportError ThreadGroup :=
  mk threads <$> OverheadRow.ofRuns Profile.runtime "runtime" runs

theorem of_eq_map (threads : UInt32) (runs : List Profile) :
    of threads runs =
      mk threads <$> rowsBy (fun run => .ok run.className)
        (OverheadRow.ofGroup (Profile.measure runtimeKey) "runtime") runs := by
  rw [← OverheadRow.ofRuns_eq_rowsBy]
  rfl

/-- When a group can be made of some runs: each of them has a time, and for each benchmark the time
of the baseline is not zero. -/
theorem exists_of_iff {threads : UInt32} :
    (∃ group, of threads runs = .ok group) ↔
      ∀ run ∈ runs, (∃ time, run.HasNumber runtimeKey time) ∧
        ∃ base, SumsTo runtimeKey (Side.baseline.runs (classRuns run.className runs)) base ∧
          (base == 0.0) = false := by
  rw [of_eq_map, exists_map_eq_ok_iff, exists_rowsBy_iff]
  simp only [Except.ok.injEq, exists_eq_left', runsOf_className, OverheadRow.exists_ofGroup_iff]
  constructor
  · intro each run member
    obtain ⟨times, base⟩ := each run member
    exact ⟨times run (List.mem_filter.mpr ⟨member, decide_eq_true rfl⟩), base⟩
  · intro each run member
    exact ⟨fun other inClass => (each other (List.mem_filter.mp inClass).1).1, (each run member).2⟩

end ThreadGroup

namespace SlowdownReport

variable {profiles : List Profile} {report : SlowdownReport}

theorem of_eq_rowsBy (profiles : List Profile) :
    of profiles = mk <$> rowsBy Profile.threadCount ThreadGroup.of profiles := by
  simp only [rowsBy, ThreadGroup.of, ← bind_pure_comp, bind_assoc]
  rfl

theorem exists_of_iff :
    (∃ report, of profiles = .ok report) ↔
      (∀ profile ∈ profiles, (∃ threads, profile.NamesThreads threads) ∧
        ∃ time, profile.HasNumber runtimeKey time) ∧
      ∀ profile ∈ profiles, ∀ threads, profile.NamesThreads threads →
        ∃ base, SumsTo runtimeKey
          (Side.baseline.runs (pairRuns threads profile.className profiles)) base ∧
            (base == 0.0) = false := by
  rw [of_eq_rowsBy, exists_map_eq_ok_iff, exists_rowsBy_iff]
  simp only [Profile.threadCount_eq_ok_iff, runsOf_threadCount, ThreadGroup.exists_of_iff]
  constructor
  · intro each
    refine ⟨fun profile member => ?_, fun profile member threads named => ?_⟩
    · obtain ⟨threads, named, group⟩ := each profile member
      exact ⟨⟨threads, named⟩, (group profile (mem_threadRuns.mpr ⟨member, named⟩)).1⟩
    · -- The thread count that groups the run is the one it names.
      obtain ⟨threads', named', group⟩ := each profile member
      obtain rfl : threads' = threads := named'.unique named
      exact (group profile (mem_threadRuns.mpr ⟨member, named⟩)).2
  · rintro ⟨readable, bases⟩ profile member
    obtain ⟨⟨threads, named⟩, -⟩ := readable profile member
    refine ⟨threads, named, fun run inThreads => ?_⟩
    obtain ⟨inProfiles, named'⟩ := mem_threadRuns.mp inThreads
    exact ⟨(readable run inProfiles).2, bases run inProfiles threads named'⟩

/-- The pairs of a thread count and a benchmark that have a row, row by row. -/
def pairs (report : SlowdownReport) : List (UInt32 × String) :=
  report.byThreads.flatMap fun group => group.rows.map fun row => (group.threads, row.benchmark)

theorem mem_pairs {pair : UInt32 × String} :
    pair ∈ report.pairs ↔
      ∃ group ∈ report.byThreads, group.threads = pair.1 ∧
        pair.2 ∈ group.rows.map OverheadRow.benchmark := by
  simp only [pairs, List.mem_flatMap, List.mem_map, Prod.ext_iff]
  constructor
  · rintro ⟨group, member, row, inRows, here, named⟩
    exact ⟨group, member, here, row, inRows, named⟩
  · rintro ⟨group, member, here, row, inRows, named⟩
    exact ⟨group, member, row, inRows, here, named⟩

end SlowdownReport

/-- What a report on slowdown shows.  Thread counts ascend, and so do the benchmarks of each; the
pairs of both that have a row are those that occur in some run, each with one row; a ratio is the
overhead of the runs of its pair; and every run counts for one sum. -/
structure SlowdownReport.Shows (report : SlowdownReport) (profiles : List Profile) : Prop where
  threads_ascending : (report.byThreads.map ThreadGroup.threads).Pairwise (· < ·)
  benchmarks_ascending : ∀ group ∈ report.byThreads,
    (group.rows.map OverheadRow.benchmark).Pairwise (· < ·)
  threads_iff : ∀ threads, threads ∈ report.byThreads.map ThreadGroup.threads ↔
    ∃ profile ∈ profiles, profile.NamesThreads threads
  pairs_iff : ∀ threads benchmark, (threads, benchmark) ∈ report.pairs ↔
    ∃ profile ∈ profiles, profile.NamesThreads threads ∧ profile.className = benchmark
  pairs_distinct : report.pairs.Nodup
  /-- The rows of a group are those made of its runs by benchmark, before they are sorted. -/
  unmoved : ∀ group ∈ report.byThreads,
    (partition Profile.className (threadRuns group.threads profiles)).mapM
      (fun runs => OverheadRow.ofGroup Profile.runtime "runtime" runs.1 runs.2) = .ok group.rows
  ratios : ∀ group ∈ report.byThreads, ∀ row ∈ group.rows,
    IsOverhead runtimeKey (pairRuns group.threads row.benchmark profiles) row.ratio
  counted : ∀ profile ∈ profiles, ∃! sum : (UInt32 × String) × Side,
    sum.1 ∈ report.pairs ∧ profile ∈ sum.2.runs (pairRuns sum.1.1 sum.1.2 profiles)

namespace SlowdownReport

variable {profiles : List Profile} {report : SlowdownReport}

theorem rowsBy_threads (made : of profiles = .ok report) :
    RowsBy Profile.threadCount ThreadGroup.of ThreadGroup.threads profiles report.byThreads := by
  rw [of_eq_rowsBy] at made
  obtain ⟨groups, groupsMade, rfl⟩ := map_eq_ok_iff.mp made
  refine rowsBy_eq_ok (fun groupMade => ?_) groupsMade
  obtain ⟨_, -, rfl⟩ := map_eq_ok_iff.mp groupMade
  rfl

/-- The rows of a group before they are sorted. -/
theorem rows_eq (made : of profiles = .ok report) {group : ThreadGroup}
    (member : group ∈ report.byThreads) :
    rowsBy (fun run => .ok run.className)
      (OverheadRow.ofGroup (Profile.measure runtimeKey) "runtime")
      (threadRuns group.threads profiles) = .ok group.rows := by
  have groupMade := (rowsBy_threads made).made group member
  rw [runsOf_threadCount, ThreadGroup.of_eq_map] at groupMade
  obtain ⟨rows, rowsMade, is⟩ := map_eq_ok_iff.mp groupMade
  rw [rowsMade, ← is]

theorem rowsBy_benchmarks (made : of profiles = .ok report) {group : ThreadGroup}
    (member : group ∈ report.byThreads) :
    RowsBy (fun run => .ok run.className)
      (OverheadRow.ofGroup (Profile.measure runtimeKey) "runtime") OverheadRow.benchmark
      (threadRuns group.threads profiles) group.rows :=
  rowsBy_eq_ok (fun rowMade => (OverheadRow.ofGroup_eq_ok_iff.mp rowMade).1) (rows_eq made member)

theorem threads_iff (made : of profiles = .ok report) {threads : UInt32} :
    threads ∈ report.byThreads.map ThreadGroup.threads ↔
      ∃ profile ∈ profiles, profile.NamesThreads threads := by
  simp only [(rowsBy_threads made).names, Profile.threadCount_eq_ok_iff]

theorem pairs_iff (made : of profiles = .ok report) {threads : UInt32} {benchmark : String} :
    (threads, benchmark) ∈ report.pairs ↔
      ∃ profile ∈ profiles, profile.NamesThreads threads ∧ profile.className = benchmark := by
  rw [mem_pairs]
  constructor
  · rintro ⟨group, member, rfl, inRows⟩
    obtain ⟨profile, inThreads, here⟩ := ((rowsBy_benchmarks made member).names benchmark).mp inRows
    obtain ⟨inProfiles, named⟩ := mem_threadRuns.mp inThreads
    exact ⟨profile, inProfiles, named, Except.ok.inj here⟩
  · rintro ⟨profile, member, named, rfl⟩
    have shown := (threads_iff made).mpr ⟨profile, member, named⟩
    obtain ⟨group, inGroups, rfl⟩ := List.mem_map.mp shown
    refine ⟨group, inGroups, rfl, ((rowsBy_benchmarks made inGroups).names _).mpr ?_⟩
    exact ⟨profile, mem_threadRuns.mpr ⟨member, named⟩, rfl⟩

theorem pairs_distinct (made : of profiles = .ok report) : report.pairs.Nodup := by
  refine List.nodup_flatMap.mpr ⟨fun group member => ?_, ?_⟩
  · have names := (rowsBy_benchmarks made member).distinct.map
      (f := fun benchmark => (group.threads, benchmark)) fun _ _ same => (Prod.mk.inj same).2
    rwa [List.map_map] at names
  · have distinct := List.pairwise_map.mp (rowsBy_threads made).distinct
    refine distinct.imp fun differ pair here there => ?_
    obtain ⟨_, -, rfl⟩ := List.mem_map.mp here
    obtain ⟨_, -, same⟩ := List.mem_map.mp there
    exact differ (Prod.mk.inj same).1.symm

theorem existsUnique_sum (made : of profiles = .ok report) {profile : Profile}
    (member : profile ∈ profiles) :
    ∃! sum : (UInt32 × String) × Side,
      sum.1 ∈ report.pairs ∧ profile ∈ sum.2.runs (pairRuns sum.1.1 sum.1.2 profiles) := by
  obtain ⟨⟨threads, named⟩, -⟩ := (exists_of_iff.mp ⟨report, made⟩).1 profile member
  refine ⟨((threads, profile.className), .of profile), ⟨?_, ?_⟩, ?_⟩
  · exact (pairs_iff made).mpr ⟨profile, member, named, rfl⟩
  · exact Side.mem_runs.mpr ⟨mem_pairRuns.mpr ⟨member, named, rfl⟩, rfl⟩
  · rintro ⟨⟨others, benchmark⟩, side⟩ ⟨-, counts⟩
    obtain ⟨inPair, rfl⟩ := Side.mem_runs.mp counts
    obtain ⟨-, named', rfl⟩ := mem_pairRuns.mp inPair
    rw [named.unique named']

theorem shows_of_ok (made : of profiles = .ok report) : report.Shows profiles where
  threads_ascending := (rowsBy_threads made).ascending.imp compareOfLessAndEq_eq_lt.mp
  benchmarks_ascending group member := (rowsBy_benchmarks made member).sorted
  threads_iff _ := threads_iff made
  pairs_iff _ _ := pairs_iff made
  pairs_distinct := pairs_distinct made
  unmoved group member := by
    rw [← rowsBy_ok]
    exact rows_eq made member
  ratios group member row inRows := by
    have rowMade := (rowsBy_benchmarks made member).made row inRows
    rw [runsOf_className] at rowMade
    exact (OverheadRow.ofGroup_eq_ok_iff.mp rowMade).2
  counted profile member := existsUnique_sum made member

end SlowdownReport

/-- **When there is a report on slowdown, and what it shows.**  There is one exactly if every run
names a thread count and has a time, and if for the thread count and the benchmark of each run the
times of the uninstrumented runs of both do not add up to zero. -/
theorem slowdown_reported (profiles : List Profile) :
    ((∃ report, SlowdownReport.of profiles = .ok report) ↔
      (∀ profile ∈ profiles, (∃ threads, profile.NamesThreads threads) ∧
        ∃ time, profile.HasNumber runtimeKey time) ∧
      ∀ profile ∈ profiles, ∀ threads, profile.NamesThreads threads →
        ∃ base, SumsTo runtimeKey
          (Side.baseline.runs (pairRuns threads profile.className profiles)) base ∧
            (base == 0.0) = false) ∧
    ∀ report, SlowdownReport.of profiles = .ok report → report.Shows profiles :=
  ⟨SlowdownReport.exists_of_iff, fun _ => SlowdownReport.shows_of_ok⟩

/-- A run that takes some time. -/
def timedRun (mainClass suffix noInstrument : String) (time : Value) : Profile where
  record := .ofList [(runtimeKey, time)]
  options := .ofList [("noInstrument", .string noInstrument), (suffixOption, .string suffix)]
  mainClass := mainClass
  source := ⟨"run.py"⟩

/-- Runs at two thread counts, where one benchmark has no instrumented run. -/
def timedRuns : List Profile :=
  [timedRun "JGFCryptBenchSizeA" "-16-threads-prof-0.py" "true" (.int 4),
    timedRun "JGFCryptBenchSizeA" "-4-threads-prof-0.py" "false" (.int 3),
    timedRun "JGFCryptBenchSizeA" "-4-threads-prof-0.py" "true" (.float 2.5),
    timedRun "Counter" "-4-threads-prof-0.py" "true" (.int 1),
    timedRun "JGFCryptBenchSizeA" "-16-threads-prof-0.py" "false" (.int 6),
    timedRun "JGFCryptBenchSizeA" "-4-threads-prof-1.py" "false" (.int 7)]

/-- The report on these runs. -/
def timedReport : SlowdownReport :=
  ⟨[⟨4, [⟨"Counter", 0.0⟩, ⟨"Crypt", 4.0⟩]⟩, ⟨16, [⟨"Crypt", 1.5⟩]⟩]⟩

theorem of_timedRuns : SlowdownReport.of timedRuns = .ok timedReport := by
  have four : (0.0 + Float.ofInt 3 + Float.ofInt 7) / (0.0 + 2.5) = 4.0 := by decide +kernel
  rw [SlowdownReport.of_eq_rowsBy, funext₂ ThreadGroup.of_eq_map, timedReport, ← four]
  rfl

/-- Ten over two and a half is four, and nothing over one is nothing. -/
theorem timed_runs_reported :
    SlowdownReport.of timedRuns = .ok timedReport ∧ timedReport.Shows timedRuns :=
  ⟨of_timedRuns, (slowdown_reported timedRuns).2 _ of_timedRuns⟩

/-! ### Runs selected by their thread count -/

theorem Profile.eq_of_runsWith {profile : Profile} {threads others : UInt32}
    (runs : profile.runsWith threads = true) (runs' : profile.runsWith others = true) :
    threads = others := by
  have counted := Profile.threadCount_of_runsWith runs
  rw [Profile.threadCount_of_runsWith runs'] at counted
  exact (Except.ok.inj counted).symm

namespace SlowdownReport

variable {profiles : List Profile} {report : SlowdownReport} {threads : UInt32}

theorem threads_of_runsWith (selected : ∀ profile ∈ profiles, profile.runsWith threads = true)
    (made : of profiles = .ok report) {group : ThreadGroup} (member : group ∈ report.byThreads) :
    group.threads = threads := by
  have listed : group.threads ∈ report.byThreads.map ThreadGroup.threads :=
    List.mem_map_of_mem member
  obtain ⟨profile, inProfiles, named⟩ := (threads_iff made).mp listed
  have counted := Profile.threadCount_of_runsWith (selected profile inProfiles)
  exact named.unique (Profile.threadCount_eq_ok_iff.mp counted)

theorem byThreads_of_runsWith (selected : ∀ profile ∈ profiles, profile.runsWith threads = true)
    (made : of profiles = .ok report) :
    report.byThreads = [] ∨ ∃ rows, report.byThreads = [⟨threads, rows⟩] := by
  have only : ∀ group ∈ report.byThreads, group.threads = threads := by
    intro group member
    exact threads_of_runsWith selected made member
  have distinct := List.pairwise_map.mp (shows_of_ok made).threads_ascending
  cases groups : report.byThreads with
  | nil => exact .inl rfl
  | cons group others =>
    rw [groups] at only distinct
    have first := only group List.mem_cons_self
    cases others with
    | nil =>
      subst first
      exact .inr ⟨group.rows, rfl⟩
    | cons other others =>
      -- A second group would have the same thread count, and thread counts ascend.
      have second := only other (List.mem_cons_of_mem _ List.mem_cons_self)
      have below := (List.pairwise_cons.mp distinct).1 other List.mem_cons_self
      rw [first, second] at below
      exact absurd below (UInt32.lt_irrefl threads)

end SlowdownReport

/-- **A run with a thread count counts as that many threads**, and its harness has the text of the
number as its name.  So a run has one thread count only, and of runs with a thread count a report on
slowdown has no group but that of this thread count. -/
theorem runs_count_as_selected :
    (∀ (profile : Profile) (threads : UInt32), profile.runsWith threads = true →
      profile.threadCount = .ok threads ∧ profile.harnessName = .ok threads.toNat.repr) ∧
    (∀ (profile : Profile) (threads others : UInt32), profile.runsWith threads = true →
      profile.runsWith others = true → threads = others) ∧
    ∀ (profiles : List Profile) (threads : UInt32),
      (∀ profile ∈ profiles, profile.runsWith threads = true) →
        ∀ report, SlowdownReport.of profiles = .ok report →
          report.byThreads = [] ∨ ∃ rows, report.byThreads = [⟨threads, rows⟩] := by
  refine ⟨?_, ?_, ?_⟩
  · intro profile threads runs
    exact ⟨Profile.threadCount_of_runsWith runs, Profile.suffixPart_of_runsWith runs⟩
  · intro profile threads others runs runs'
    exact Profile.eq_of_runsWith runs runs'
  · intro profiles threads selected report made
    exact SlowdownReport.byThreads_of_runsWith selected made

/-- Of the timed runs those with sixteen threads. -/
def sixteenRuns : List Profile :=
  timedRuns.filter (·.runsWith 16)

theorem sixteen_runs_counted :
    (∀ profile ∈ sixteenRuns, profile.threadCount = .ok 16 ∧ profile.harnessName = .ok "16") ∧
      (∃ profile ∈ sixteenRuns, ∀ threads, profile.runsWith threads = true → threads = 16) ∧
      ∃ report, SlowdownReport.of sixteenRuns = .ok report ∧
        (report.byThreads = [] ∨ ∃ rows, report.byThreads = [⟨16, rows⟩]) := by
  obtain ⟨counted, one, only⟩ := runs_count_as_selected
  have selected : ∀ profile ∈ sixteenRuns, profile.runsWith 16 = true := by
    intro profile member
    exact (List.mem_filter.mp member).2
  refine ⟨?_, ?_, ?_⟩
  · intro profile member
    exact counted profile 16 (selected profile member)
  · have member : timedRun "JGFCryptBenchSizeA" "-16-threads-prof-0.py" "true" (.int 4) ∈
        sixteenRuns := List.mem_cons_self
    exact ⟨_, member, fun threads runs => one _ threads 16 runs (selected _ member)⟩
  · have made : SlowdownReport.of sixteenRuns = .ok ⟨[⟨16, [⟨"Crypt", 1.5⟩]⟩]⟩ := by
      rw [SlowdownReport.of_eq_rowsBy, funext₂ ThreadGroup.of_eq_map]
      rfl
    exact ⟨_, made, only sixteenRuns 16 selected _ made⟩

end DumpDigest
