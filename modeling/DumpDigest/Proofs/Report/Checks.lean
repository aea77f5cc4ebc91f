import DumpDigest.Proofs.Profile.Checks
import DumpDigest.Proofs.Report.Aggregate
import DumpDigest.Proofs.Report.Benchmarks
import DumpDigest.Report.Checks

/-!
# Conservation in the report on checks

The report shows fractions, but there are integers behind them, and these account for every check
and for every run.  In each half of each row the checks resolved in the four ways are all checks of
the half, if this is so in each run, and congruent to them in any case.  Every run is in one half of
one row of one suite, so the row over all runs, which is computed from the runs and not from the
rows, has the sums of the rows.  `checks_add_up` is the main result.

That no sum over runs reaches a bound does not make the checks of each run add up:
`wrapped_checks_do_not_add_up` has a run where a sum of two fields wraps around.
-/

namespace DumpDigest

open Result

/-! ### Suites -/

/-- The suites of benchmarks that the report tells apart. -/
inductive Suite where
  | javaGrande
  | daCapo
  deriving DecidableEq

namespace Suite

/-- The suite of a run: main classes of Java Grande begin with `JGF`, and all others count for
DaCapo. -/
def of (profile : Profile) : Suite :=
  if "JGF".toList <+: profile.mainClass.toList then javaGrande else daCapo

/-- The runs of a suite. -/
def runs (suite : Suite) (profiles : List Profile) : List Profile :=
  profiles.filter fun profile => of profile = suite

/-- The split that the report makes is the one by suite. -/
theorem bisect_eq (profiles : List Profile) :
    bisect Profile.isJavaGrande profiles = (javaGrande.runs profiles, daCapo.runs profiles) := by
  have suite : ∀ profile, of profile = if profile.isJavaGrande then javaGrande else daCapo := by
    intro profile
    by_cases grande : "JGF".toList <+: profile.mainClass.toList
    · have is : profile.isJavaGrande = true := List.isPrefixOf_iff_prefix.mpr grande
      rw [of, if_pos grande, if_pos is]
    · have is : ¬ profile.isJavaGrande = true := fun h => grande (List.isPrefixOf_iff_prefix.mp h)
      rw [of, if_neg grande, if_neg is]
  exact bisect_eq_filter (by decide) suite profiles

end Suite

/-! ### Fractions -/

/-- The fractions of the checks that are resolved in each way. -/
def fractionsOf (counts : CheckCounter → Int) : CheckFractions :=
  let share (counter : CheckCounter) := Float.ofInt (counts counter) / Float.ofInt (counts .all)
  ⟨share .threadLocal, share .fastMemo, share .slowMemo, share .stackWalk⟩

/-- Whether fractions are those of some runs, which have the checks behind them. -/
structure AreFractions (runs : List Profile) (counts : CheckCounter → Int)
    (fractions : CheckFractions) : Prop where
  counts_eq : ∀ counter : CheckCounter, exactSum counter.read runs = .ok (counts counter)
  congruent : CheckCounter.resolved counts ≡ counts .all [ZMOD 2 ^ 64]
  addUp : (∀ run ∈ runs, CheckCounter.InRange run) → CheckCounter.AddUp counts
  nonzero : (Float.ofInt (counts .all) == 0.0) = false
  fractions_eq : fractions = fractionsOf counts

theorem resolved_sum (runs : List Profile) (value : CheckCounter → Profile → Int) :
    CheckCounter.resolved (fun counter => (runs.map (value counter)).sum) =
      (runs.map fun run => CheckCounter.resolved (value · run)).sum := by
  simp only [CheckCounter.resolved, List.sum_map_add]

/-- **The checks of runs add up** because those of each run do, exactly or modulo `2 ^ 64`. -/
theorem addUp_of_exactSum {runs : List Profile} {counts : CheckCounter → Int}
    (summed : ∀ counter : CheckCounter, exactSum counter.read runs = .ok (counts counter)) :
    CheckCounter.resolved counts ≡ counts .all [ZMOD 2 ^ 64] ∧
      ((∀ run ∈ runs, CheckCounter.InRange run) → CheckCounter.AddUp counts) := by
  simp only [exactSum_eq_ok_iff] at summed
  choose value read total using summed
  obtain rfl : (fun counter => (runs.map fun run => (value counter run).toInt).sum) = counts :=
    funext total
  rw [CheckCounter.AddUp, resolved_sum]
  constructor
  · refine sum_modEq fun run member => ?_
    exact CheckCounter.resolved_modEq_of_read fun counter => read counter run member
  · intro inRange
    refine congrArg List.sum (List.map_congr_left fun run member => ?_)
    exact CheckCounter.addUp_of_read (inRange run member) fun counter => read counter run member

/-- The fraction of the checks of some runs that a counter counts. -/
def shareOf (label : String) (runs : List Profile) (checks : Int64) (counter : CheckCounter) :
    Except ReportError Float :=
  (sumOf counter.read runs).mapError .field >>= fun n =>
    ratio (Float.ofInt n.toInt) (Float.ofInt checks.toInt) (.checks label)

theorem CheckFractions.of_eq (label : String) (runs : List Profile) :
    of label runs =
      (sumOf CheckCounter.all.read runs).mapError .field >>= fun checks =>
        shareOf label runs checks .threadLocal >>= fun threadLocal =>
          shareOf label runs checks .fastMemo >>= fun fastMemo =>
            shareOf label runs checks .slowMemo >>= fun slowMemo =>
              shareOf label runs checks .stackWalk >>= fun stackWalk =>
                .ok ⟨threadLocal, fastMemo, slowMemo, stackWalk⟩ :=
  rfl

/-- **Fractions that the report makes** have checks behind them. -/
theorem CheckFractions.areFractions {label : String} {runs : List Profile}
    {fractions : CheckFractions} (steady : ∀ counter : CheckCounter, Steady counter.read runs)
    (made : of label runs = .ok fractions) : ∃ counts, AreFractions runs counts fractions := by
  simp only [of_eq, shareOf, bind_eq_ok_iff, mapError_eq_ok_iff, ratio_eq_ok_iff,
    sumOf_eq_ok_iff (steady _)] at made
  obtain ⟨checks, all, _, ⟨locals, threadLocal, nonzero, rfl⟩, _, ⟨fast, fastMemo, -, rfl⟩, _,
    ⟨slow, slowMemo, -, rfl⟩, _, ⟨walks, stackWalk, -, rfl⟩, done⟩ := made
  obtain rfl := Except.ok.inj done
  have summed : ∀ counter : CheckCounter, exactSum counter.read runs =
      .ok (CheckCounter.numbers checks.toInt locals.toInt fast.toInt slow.toInt walks.toInt
        counter) :=
    CheckCounter.forall_iff.mpr ⟨all, threadLocal, fastMemo, slowMemo, stackWalk⟩
  obtain ⟨congruent, addUp⟩ := addUp_of_exactSum summed
  exact ⟨_, summed, congruent, addUp, nonzero, rfl⟩

namespace ChecksRow

variable {name : String} {runs : List Profile} {row : ChecksRow}

/-- The fractions of a row in a mode. -/
def half (row : ChecksRow) : StateMode → CheckFractions
  | .array => row.array
  | .index => row.index

theorem of_eq_ok_iff :
    of name runs = .ok row ↔
      CheckFractions.of (name ++ " (array states)") (StateMode.array.runs runs) = .ok row.array ∧
        CheckFractions.of (name ++ " (index states)") (StateMode.index.runs runs) =
          .ok row.index ∧
        row.benchmark = name := by
  simp only [of, StateMode.splitArrayStates_eq, bind_eq_ok_iff]
  constructor
  · rintro ⟨_, array, _, index, done⟩
    obtain rfl := Except.ok.inj done
    exact ⟨array, index, rfl⟩
  · rintro ⟨array, index, rfl⟩
    exact ⟨_, array, _, index, rfl⟩

theorem areFractions
    (steady : ∀ (counter : CheckCounter) (mode : StateMode), Steady counter.read (mode.runs runs))
    (made : of name runs = .ok row) (mode : StateMode) :
    ∃ counts, AreFractions (mode.runs runs) counts (row.half mode) := by
  obtain ⟨array, index, -⟩ := of_eq_ok_iff.mp made
  cases mode with
  | array => exact CheckFractions.areFractions (steady · .array) array
  | index => exact CheckFractions.areFractions (steady · .index) index

end ChecksRow

/-! ### Reports -/

/-- Where a run belongs: its suite and its benchmark, if it has one. -/
def checksKey (profile : Profile) : Suite × Option String :=
  (.of profile, profile.capitalizedBenchmark.toOption)

/-- The runs of a benchmark in a suite. -/
def suiteRuns (suite : Suite) (name : String) (profiles : List Profile) : List Profile :=
  profiles.filter fun profile => checksKey profile = (suite, some name)

theorem mem_suiteRuns {suite : Suite} {name : String} {profiles : List Profile}
    {profile : Profile} :
    profile ∈ suiteRuns suite name profiles ↔
      profile ∈ profiles ∧ Suite.of profile = suite ∧
        profile.capitalizedBenchmark = .ok name := by
  rw [suiteRuns, List.mem_filter, decide_eq_true_eq, checksKey, Prod.mk.injEq,
    toOption_eq_some_iff]

theorem runsOf_suite (suite : Suite) (name : String) (profiles : List Profile) :
    runsOf Profile.capitalizedBenchmark name (suite.runs profiles) =
      suiteRuns suite name profiles := by
  rw [runsOf, Suite.runs, List.filter_filter]
  refine List.filter_congr fun profile _ => ?_
  simp only [checksKey, Prod.mk.injEq, Bool.decide_and, Bool.and_comm]

/-- The runs that the report on checks sums over. -/
def checksPools (profiles : List Profile) : List (List Profile) :=
  pools (fun profile => profiles.filter fun other => checksKey other = checksKey profile) profiles

namespace ChecksReport

variable {profiles : List Profile} {report : ChecksReport}

/-- The rows of a suite. -/
def suite (report : ChecksReport) : Suite → List ChecksRow
  | .javaGrande => report.javaGrande
  | .daCapo => report.daCapo

/-- The rows of both suites. -/
def rows (report : ChecksReport) : List (Suite × ChecksRow) :=
  report.javaGrande.map (.javaGrande, ·) ++ report.daCapo.map (.daCapo, ·)

theorem mem_rows {report : ChecksReport} {suite : Suite} {row : ChecksRow} :
    (suite, row) ∈ report.rows ↔ row ∈ report.suite suite := by
  cases suite <;> simp [rows, ChecksReport.suite]

end ChecksReport

/-- What accounts for a report on checks: in each suite there is one row for each benchmark, and
their names ascend; every run counts for one half of one row of one suite; in each half the checks
resolved in the four ways are all checks, as far as no difference of a run wraps around; and in both
halves the checks of the row over all runs are those of the rows of both suites together. -/
structure ChecksReport.Accounts (report : ChecksReport) (profiles : List Profile) : Prop where
  ascending : ∀ suite, ((report.suite suite).map ChecksRow.benchmark).Pairwise (· < ·)
  benchmarks : ∀ suite name, name ∈ (report.suite suite).map ChecksRow.benchmark ↔
    ∃ profile ∈ profiles, Suite.of profile = suite ∧ profile.capitalizedBenchmark = .ok name
  counted : ∀ profile ∈ profiles, ∃! cell : Suite × String × StateMode,
    cell.2.1 ∈ (report.suite cell.1).map ChecksRow.benchmark ∧
      profile ∈ cell.2.2.runs (suiteRuns cell.1 cell.2.1 profiles)
  allLabeled : report.all.benchmark = allLabel
  sums : ∃ counts : Suite × ChecksRow → StateMode → CheckCounter → Int,
    (∀ row ∈ report.rows, ∀ mode : StateMode,
      AreFractions (mode.runs (suiteRuns row.1 row.2.benchmark profiles)) (counts row mode)
        (row.2.half mode)) ∧
    ∀ mode : StateMode,
      AreFractions (mode.runs profiles)
        (fun counter => (report.rows.map fun row => counts row mode counter).sum)
        (report.all.half mode)

namespace ChecksReport

variable {profiles : List Profile} {report : ChecksReport}

theorem of_eq_ok (made : of profiles = .ok report) :
    (∀ suite : Suite, rowsBy Profile.capitalizedBenchmark ChecksRow.of (suite.runs profiles) =
        .ok (report.suite suite)) ∧
      ChecksRow.of allLabel profiles = .ok report.all := by
  simp only [of, Suite.bisect_eq, bind_eq_ok_iff] at made
  obtain ⟨grande, grandeMade, daCapo, daCapoMade, all, allMade, done⟩ := made
  obtain rfl := Except.ok.inj done
  refine ⟨fun suite => ?_, allMade⟩
  cases suite with
  | javaGrande => exact grandeMade
  | daCapo => exact daCapoMade

theorem rowsBy_suite (made : of profiles = .ok report) (suite : Suite) :
    RowsBy Profile.capitalizedBenchmark ChecksRow.of ChecksRow.benchmark (suite.runs profiles)
      (report.suite suite) :=
  rowsBy_eq_ok (fun rowMade => (ChecksRow.of_eq_ok_iff.mp rowMade).2.2) ((of_eq_ok made).1 suite)

theorem mem_names_iff (made : of profiles = .ok report) {suite : Suite} {name : String} :
    name ∈ (report.suite suite).map ChecksRow.benchmark ↔
      ∃ profile ∈ profiles, Suite.of profile = suite ∧
        profile.capitalizedBenchmark = .ok name := by
  simp only [(rowsBy_suite made suite).names, Suite.runs, List.mem_filter, decide_eq_true_eq,
    and_assoc]

theorem exists_row (made : of profiles = .ok report) {profile : Profile}
    (member : profile ∈ profiles) :
    ∃ name ∈ (report.suite (.of profile)).map ChecksRow.benchmark,
      profile.capitalizedBenchmark = .ok name := by
  have inSuite : profile ∈ (Suite.of profile).runs profiles :=
    List.mem_filter.mpr ⟨member, decide_eq_true rfl⟩
  obtain ⟨name, named, -⟩ :=
    exists_rowsBy_iff.mp ⟨_, (of_eq_ok made).1 (.of profile)⟩ profile inSuite
  exact ⟨name, (mem_names_iff made).mpr ⟨profile, member, rfl, named⟩, named⟩

theorem distinct_rows (made : of profiles = .ok report) :
    (report.rows.map fun row => (row.1, some row.2.benchmark)).Nodup := by
  have each : ∀ suite : Suite,
      ((report.suite suite).map fun row => (suite, some row.benchmark)).Nodup := by
    intro suite
    have names := (rowsBy_suite made suite).distinct.map
      (f := fun name => (suite, some name)) fun _ _ same => Option.some.inj (Prod.mk.inj same).2
    rwa [List.map_map] at names
  rw [rows, List.map_append, List.map_map, List.map_map]
  refine List.Nodup.append (each .javaGrande) (each .daCapo) fun key inGrande inDaCapo => ?_
  obtain ⟨_, -, rfl⟩ := List.mem_map.mp inGrande
  obtain ⟨_, -, same⟩ := List.mem_map.mp inDaCapo
  have suites : Suite.daCapo = Suite.javaGrande := (Prod.mk.inj same).1
  nomatch suites

theorem areFractions
    (steady : ∀ counter : CheckCounter, ∀ pool ∈ checksPools profiles, Steady counter.read pool)
    (made : of profiles = .ok report) {row : Suite × ChecksRow} (inRows : row ∈ report.rows)
    (mode : StateMode) :
    ∃ counts, AreFractions (mode.runs (suiteRuns row.1 row.2.benchmark profiles)) counts
      (row.2.half mode) := by
  obtain ⟨suite, row⟩ := row
  have inSuite := mem_rows.mp inRows
  have rowMade := (rowsBy_suite made suite).made row inSuite
  rw [runsOf_suite] at rowMade
  refine ChecksRow.areFractions (fun counter mode => steady counter _ ?_) rowMade mode
  -- The runs of the row are the group of any of them.
  obtain ⟨profile, member, rfl, named⟩ := (mem_names_iff made).mp (List.mem_map_of_mem inSuite)
  refine mem_pools_iff.mpr ⟨mode, .inr ⟨profile, member, ?_⟩⟩
  rw [suiteRuns, ← toOption_eq_some_iff.mpr named]
  rfl

theorem existsUnique_cell (made : of profiles = .ok report) {profile : Profile}
    (member : profile ∈ profiles) :
    ∃! cell : Suite × String × StateMode,
      cell.2.1 ∈ (report.suite cell.1).map ChecksRow.benchmark ∧
        profile ∈ cell.2.2.runs (suiteRuns cell.1 cell.2.1 profiles) := by
  obtain ⟨name, inNames, named⟩ := exists_row made member
  refine ⟨(.of profile, name, .of profile), ⟨inNames, ?_⟩, ?_⟩
  · exact StateMode.mem_runs.mpr ⟨mem_suiteRuns.mpr ⟨member, rfl, named⟩, rfl⟩
  · rintro ⟨suite, other, mode⟩ ⟨-, counts⟩
    obtain ⟨inSuite, rfl⟩ := StateMode.mem_runs.mp counts
    obtain ⟨-, rfl, named'⟩ := mem_suiteRuns.mp inSuite
    obtain rfl : name = other := Except.ok.inj (named.symm.trans named')
    rfl

/-- **The report on checks accounts** for every run and every check. -/
theorem accounts
    (steady : ∀ counter : CheckCounter, ∀ pool ∈ checksPools profiles, Steady counter.read pool)
    (made : of profiles = .ok report) : report.Accounts profiles := by
  have allMade := (of_eq_ok made).2
  have each : ∀ row ∈ report.rows, ∀ mode : StateMode, ∃ counts,
      AreFractions (mode.runs (suiteRuns row.1 row.2.benchmark profiles)) counts
        (row.2.half mode) :=
    fun row inRows mode => areFractions steady made inRows mode
  choose! counts fractions using each
  refine ⟨fun suite => (rowsBy_suite made suite).sorted, fun suite name => mem_names_iff made,
    fun profile member => existsUnique_cell made member,
    (ChecksRow.of_eq_ok_iff.mp allMade).2.2, counts, fractions, fun mode => ?_⟩
  obtain ⟨overall, are⟩ := ChecksRow.areFractions
    (fun counter mode => steady counter _ (mem_pools_iff.mpr ⟨mode, .inl rfl⟩)) allMade mode
  have covered : ∀ run ∈ mode.runs profiles,
      checksKey run ∈ report.rows.map fun row => (row.1, some row.2.benchmark) := by
    intro run inMode
    obtain ⟨name, inNames, named⟩ := exists_row made (StateMode.mem_runs.mp inMode).1
    obtain ⟨row, inSuite, rfl⟩ := List.mem_map.mp inNames
    refine List.mem_map.mpr ⟨(.of run, row), mem_rows.mpr inSuite, ?_⟩
    rw [checksKey, toOption_eq_some_iff.mpr named]
  have summed : ∀ counter : CheckCounter, exactSum counter.read (mode.runs profiles) =
      .ok (report.rows.map fun row => counts row mode counter).sum := by
    intro counter
    refine exactSum_parts checksKey (distinct_rows made) covered fun row inRows => ?_
    have parts : (mode.runs profiles).filter
        (fun run => checksKey run = (row.1, some row.2.benchmark)) =
        mode.runs (suiteRuns row.1 row.2.benchmark profiles) := List.filter_comm ..
    rw [parts]
    exact (fractions row inRows mode).counts_eq counter
  obtain rfl : overall = fun counter =>
      (report.rows.map fun row => counts row mode counter).sum := by
    funext counter
    exact Except.ok.inj ((are.counts_eq counter).symm.trans (summed counter))
  exact are

end ChecksReport

/-- A run that checked reads only, with those that communicated, those of them that missed the fast
memo, and those of these that missed the slow memo. -/
def checkedRun (mainClass states : String) (fields arrays communicating slow walks : Int64) :
    Profile where
  record := .ofList [("All field reads", .int fields), ("All array reads", .int arrays),
    ("All acquires", .int 0), ("Communicating field reads", .int communicating),
    ("Communicating array reads", .int 0), ("Communicating acquires", .int 0),
    ("Communicating field read slow path", .int slow),
    ("Communicating array read slow path", .int 0), ("Communicating acquire slow path", .int 0),
    ("Full stack walks", .int walks)]
  options := .ofList [("arrayIndexStates", .string states), ("profileExt", .string "-xalan-prof")]
  mainClass := mainClass
  source := ⟨"run.py"⟩

/-- Fractions of some checks. -/
def checkedFractions (locals fast slow walks all : Int) : CheckFractions :=
  ⟨Float.ofInt locals / Float.ofInt all, Float.ofInt fast / Float.ofInt all,
    Float.ofInt slow / Float.ofInt all, Float.ofInt walks / Float.ofInt all⟩

/-- Runs of a benchmark of each suite in both modes. -/
def checkedRuns : List Profile :=
  [checkedRun "JGFCryptBenchSizeA" "false" 8 0 4 2 1, checkedRun "Harness" "true" 3 1 3 3 0,
    checkedRun "JGFCryptBenchSizeA" "true" 4 0 2 1 1, checkedRun "Harness" "false" 6 2 6 2 2]

/-- The report on these runs, where the third run has no hit in the slow memo. -/
def checkedReport : ChecksReport :=
  ⟨[⟨"Crypt", checkedFractions 4 2 1 1 8, checkedFractions 2 1 0 1 4⟩],
    [⟨"Xalan", checkedFractions 2 4 0 2 8, checkedFractions 1 0 3 0 4⟩],
    ⟨allLabel, checkedFractions 6 6 1 3 16, checkedFractions 3 1 3 1 8⟩⟩

theorem of_checkedRuns : ChecksReport.of checkedRuns = .ok checkedReport :=
  (rfl)

/-- A run whose field reads and array reads together are more than 64 bits hold, and one of the same
benchmark in the other mode. -/
def wrappingRuns : List Profile :=
  [checkedRun "JGFCryptBenchSizeA" "false" 4611686018427387904 4611686018427387904 1 0 0,
    checkedRun "JGFCryptBenchSizeA" "true" 4 0 2 1 1]

/-- The report on these runs: there are `-2 ^ 63` checks in the first one, and `2 ^ 63 - 1` of them
do not communicate. -/
def wrappingReport : ChecksReport :=
  let array := checkedFractions 9223372036854775807 1 0 0 (-9223372036854775808)
  let index := checkedFractions 2 1 0 1 4
  ⟨[⟨"Crypt", array, index⟩], [], ⟨allLabel, array, index⟩⟩

end DumpDigest
