import DumpDigest.Proofs.Profile.Counters
import DumpDigest.Proofs.Profile.States
import DumpDigest.Proofs.Report.Extremes
import DumpDigest.Report.FrequentStacks
import DumpDigest.Report.Walks

/-!
# The reports on stack walks and on frequent stacks

Both are reports on extremes (`WalksReport.of_eq`, `FrequentStacksReport.of_eq`).  The one has six
columns, three for the runs with one state per array and three for the others, and takes benchmarks
from main classes; the other has one column for all runs and fails on runs without a benchmark.
`extremes_reports_exact` is the main result.
-/

namespace DumpDigest

open Result ExtremeColumn

/-! ### Stack walks -/

/-- The columns of the report on stack walks. -/
def walksColumns : List (ExtremeColumn WalksRow) :=
  [⟨.greatest, Profile.stackWalks, arrayStates, WalksRow.mostWalksArray⟩,
    ⟨.greatest, Profile.stackWalks, indexStates, WalksRow.mostWalksIndex⟩,
    ⟨.greatest, Profile.communications, arrayStates, WalksRow.mostCommunicationsArray⟩,
    ⟨.greatest, Profile.communications, indexStates, WalksRow.mostCommunicationsIndex⟩,
    ⟨.least, Profile.communications, arrayStates, WalksRow.fewestCommunicationsArray⟩,
    ⟨.least, Profile.communications, indexStates, WalksRow.fewestCommunicationsIndex⟩]

/-- The fields of a run that add up to its communications. -/
def communicationCounters : List String :=
  ["Communicating field reads", "Communicating array reads", "Communicating acquires"]

/-- The fields that the report on stack walks reads. -/
def walksCounters : List String :=
  "Full stack walks" :: communicationCounters

namespace WalksRow

variable {name : String} {profiles : List Profile}

theorem of_eq_ok_iff {row : WalksRow} :
    of name profiles = .ok row ↔
      row.benchmark = name ∧
        ∀ column ∈ walksColumns, column.Shows (· ∈ profiles) (column.entry row) := by
  simp only [of, bind_eq_ok_iff, walksColumns, List.forall_mem_cons]
  constructor
  · rintro ⟨_, walks, _, walks', _, most, _, most', _, fewest, _, fewest', done⟩
    obtain rfl := Except.ok.inj done
    exact ⟨rfl, computed_iff.mp walks, computed_iff.mp walks', computed_iff.mp most,
      computed_iff.mp most', computed_iff.mp fewest, computed_iff.mp fewest',
      List.forall_mem_nil _⟩
  · rintro ⟨rfl, walks, walks', most, most', fewest, fewest', -⟩
    exact ⟨_, computed_iff.mpr walks, _, computed_iff.mpr walks', _, computed_iff.mpr most, _,
      computed_iff.mpr most', _, computed_iff.mpr fewest, _, computed_iff.mpr fewest', rfl⟩

theorem exists_of (computed : ∀ column ∈ walksColumns, ∃ value, column.Shows (· ∈ profiles) value) :
    ∃ row, of name profiles = .ok row := by
  simp only [walksColumns, List.forall_mem_cons] at computed
  obtain ⟨⟨_, walks⟩, ⟨_, walks'⟩, ⟨_, most⟩, ⟨_, most'⟩, ⟨_, fewest⟩, ⟨_, fewest'⟩, -⟩ := computed
  simp only [of_eq_ok_iff, walksColumns, List.forall_mem_cons]
  exact ⟨⟨name, _, _, _, _, _, _⟩, rfl, walks, walks', most, most', fewest, fewest',
    List.forall_mem_nil _⟩

/-- Rows on stack walks are rows of extremes. -/
def extremes : ExtremeRows WalksRow where
  columns := walksColumns
  label := benchmark
  make := of
  make_eq_ok_iff := of_eq_ok_iff
  exists_make := exists_of
  columns_ne_nil := List.cons_ne_nil _ _

/-- The columns can be read of all runs when their fields can, since each run counts for one half of
the columns and both halves read the same fields. -/
theorem readable_iff :
    (∀ column ∈ walksColumns, column.Readable (· ∈ profiles)) ↔
      ∀ profile ∈ profiles, ∀ key ∈ walksCounters, profile.HasCounter key := by
  have fields : ∀ profile : Profile, (∀ key ∈ walksCounters, profile.HasCounter key) ↔
      (∃ n, profile.stackWalks = .ok n) ∧ ∃ n, profile.communications = .ok n := by
    intro profile
    rw [walksCounters, List.forall_mem_cons]
    exact and_congr Profile.exists_counter_iff.symm Profile.exists_total_iff.symm
  simp only [fields, walksColumns, List.forall_mem_cons]
  constructor
  · rintro ⟨walks, walks', communications, communications', -⟩ profile member
    -- The columns of the least communications repeat what those of the greatest ask for.
    by_cases half : arrayStates profile = true
    · exact ⟨walks profile member half, communications profile member half⟩
    · have other : indexStates profile = true := by simp [indexStates, half]
      exact ⟨walks' profile member other, communications' profile member other⟩
  · intro read
    have walks : ∀ profile ∈ profiles, ∃ n, profile.stackWalks = .ok n :=
      fun profile member => (read profile member).1
    have communications : ∀ profile ∈ profiles, ∃ n, profile.communications = .ok n :=
      fun profile member => (read profile member).2
    exact ⟨fun profile member _ => walks profile member,
      fun profile member _ => walks profile member,
      fun profile member _ => communications profile member,
      fun profile member _ => communications profile member,
      fun profile member _ => communications profile member,
      fun profile member _ => communications profile member, List.forall_mem_nil _⟩

end WalksRow

namespace WalksReport

theorem of_eq (profiles : List Profile) :
    of profiles =
      (fun made => ⟨made.1, made.2⟩) <$>
        WalksRow.extremes.report (fun profile => .ok profile.className) profiles := by
  have groups : tryPartition (fun profile => .ok profile.className) profiles =
      (.ok (partition Profile.className profiles) : Except FieldError _) :=
    tryPartition_eq_ok fun _ _ => rfl
  simp only [ExtremeRows.report, groups, map_bind, map_pure]
  rfl

variable {profiles : List Profile}

/-- **When there is a report on stack walks**: there are runs, they have the fields, and every
benchmark has runs of both halves. -/
theorem exists_of_iff :
    (∃ report, of profiles = .ok report) ↔
      profiles ≠ [] ∧ (∀ profile ∈ profiles, ∀ key ∈ walksCounters, profile.HasCounter key) ∧
      ∀ profile ∈ profiles,
        (∃ other ∈ profiles, other.className = profile.className ∧
          other.option? "arrayIndexStates" = some "false") ∧
        ∃ other ∈ profiles, other.className = profile.className ∧
          other.option? "arrayIndexStates" ≠ some "false" := by
  have halves : (∀ profile ∈ profiles, ∀ column ∈ walksColumns,
        ∃ other ∈ profiles, (Except.ok other.className : Except FieldError String) =
          .ok profile.className ∧ column.counts other = true) ↔
      ∀ profile ∈ profiles,
        (∃ other ∈ profiles, other.className = profile.className ∧
          other.option? "arrayIndexStates" = some "false") ∧
        ∃ other ∈ profiles, other.className = profile.className ∧
          other.option? "arrayIndexStates" ≠ some "false" := by
    simp only [walksColumns, List.forall_mem_cons, arrayStates_iff, indexStates_iff,
      Except.ok.injEq]
    constructor
    · intro present profile member
      obtain ⟨array, index, -⟩ := present profile member
      exact ⟨array, index⟩
    · intro present profile member
      obtain ⟨array, index⟩ := present profile member
      exact ⟨array, index, array, index, array, index, List.forall_mem_nil _⟩
  simp only [of_eq, exists_map_eq_ok_iff]
  rw [ExtremeRows.exists_report_iff, ← WalksRow.readable_iff, ← halves]
  constructor
  · rintro ⟨some, -, readable, present⟩
    exact ⟨some, readable, present⟩
  · rintro ⟨some, readable, present⟩
    exact ⟨some, fun profile _ => ⟨_, rfl⟩, readable, present⟩

theorem reported {report : WalksReport} (made : of profiles = .ok report) :
    WalksRow.extremes.Reported (fun profile => .ok profile.className) profiles report.rows
      report.all := by
  rw [of_eq] at made
  obtain ⟨⟨rows, all⟩, computed, rfl⟩ := map_eq_ok_iff.mp made
  exact ExtremeRows.reported computed

end WalksReport

/-! ### Frequent stacks -/

/-- The column of the report on frequent stacks. -/
def frequentStacksColumn : ExtremeColumn FrequentStacksRow :=
  ⟨.greatest, Profile.frequentStacks, fun _ => true, FrequentStacksRow.most⟩

namespace FrequentStacksRow

variable {name : String} {profiles : List Profile}

theorem greatestOf_eq_ok_iff {group : RunGroup} {value : Int64} :
    greatestOf Profile.frequentStacks group profiles = .ok value ↔
      frequentStacksColumn.Shows (· ∈ profiles) value := by
  have all : profiles.filter frequentStacksColumn.counts = profiles :=
    List.filter_eq_self.mpr fun _ _ => rfl
  rw [← computed_iff, all]
  rfl

theorem of_eq_ok_iff {row : FrequentStacksRow} :
    of name profiles = .ok row ↔
      row.benchmark = name ∧
        ∀ column ∈ [frequentStacksColumn], column.Shows (· ∈ profiles) (column.entry row) := by
  simp only [of, bind_eq_ok_iff, greatestOf_eq_ok_iff, List.forall_mem_singleton]
  constructor
  · rintro ⟨_, most, done⟩
    obtain rfl := Except.ok.inj done
    exact ⟨rfl, most⟩
  · rintro ⟨rfl, most⟩
    exact ⟨_, most, rfl⟩

/-- Rows on frequent stacks are rows of extremes. -/
def extremes : ExtremeRows FrequentStacksRow where
  columns := [frequentStacksColumn]
  label := benchmark
  make := of
  make_eq_ok_iff := of_eq_ok_iff
  exists_make := by
    intro name profiles computed
    obtain ⟨most, shows⟩ := List.forall_mem_singleton.mp computed
    exact ⟨⟨name, most⟩, of_eq_ok_iff.mpr ⟨rfl, List.forall_mem_singleton.mpr shows⟩⟩
  columns_ne_nil := List.cons_ne_nil _ _

end FrequentStacksRow

namespace FrequentStacksReport

theorem of_eq (profiles : List Profile) :
    of profiles =
      (fun made => ⟨made.1, made.2⟩) <$>
        FrequentStacksRow.extremes.report Profile.benchmark profiles := by
  simp only [ExtremeRows.report, map_bind, map_pure]
  rfl

variable {profiles : List Profile}

/-- **When there is a report on frequent stacks**: there are runs, and they have a benchmark and the
field. -/
theorem exists_of_iff :
    (∃ report, of profiles = .ok report) ↔
      profiles ≠ [] ∧ ∀ profile ∈ profiles, (∃ name, profile.benchmark = .ok name) ∧
        profile.HasCounter "frequently communicating stacks" := by
  simp only [of_eq, exists_map_eq_ok_iff, ← Profile.exists_counter_iff]
  rw [ExtremeRows.exists_report_iff]
  constructor
  · rintro ⟨some, named, readable, -⟩
    refine ⟨some, fun profile member => ⟨named profile member, ?_⟩⟩
    exact readable frequentStacksColumn (List.mem_singleton_self _) profile member rfl
  · rintro ⟨some, read⟩
    refine ⟨some, fun profile member => (read profile member).1, ?_, ?_⟩
    · exact List.forall_mem_singleton.mpr fun profile member _ => (read profile member).2
    · intro profile member
      exact List.forall_mem_singleton.mpr ⟨profile, member, rfl, rfl⟩

theorem reported {report : FrequentStacksReport} (made : of profiles = .ok report) :
    FrequentStacksRow.extremes.Reported Profile.benchmark profiles report.rows report.all := by
  rw [of_eq] at made
  obtain ⟨⟨rows, all⟩, computed, rfl⟩ := map_eq_ok_iff.mp made
  exact ExtremeRows.reported computed

end FrequentStacksReport

/-! ### Both reports -/

/-- **When the reports on extremes can be made, and what is in them.**  Without runs there is none.
The report on stack walks needs four integer fields of every run and, of every benchmark, runs with
both ways of keeping array states; the report on frequent stacks needs a benchmark and one integer
field of every run.  Communications are the sum of three fields, as far as this fits in 64 bits. -/
theorem extremes_reports_exact (profiles : List Profile) :
    ((∃ report, WalksReport.of profiles = .ok report) ↔
      profiles ≠ [] ∧ (∀ profile ∈ profiles, ∀ key ∈ walksCounters, profile.HasCounter key) ∧
      ∀ profile ∈ profiles,
        (∃ other ∈ profiles, other.className = profile.className ∧
          other.option? "arrayIndexStates" = some "false") ∧
        ∃ other ∈ profiles, other.className = profile.className ∧
          other.option? "arrayIndexStates" ≠ some "false") ∧
    (∀ report, WalksReport.of profiles = .ok report →
      WalksRow.extremes.Reported (fun profile => .ok profile.className) profiles report.rows
        report.all) ∧
    ((∃ report, FrequentStacksReport.of profiles = .ok report) ↔
      profiles ≠ [] ∧ ∀ profile ∈ profiles, (∃ name, profile.benchmark = .ok name) ∧
        profile.HasCounter "frequently communicating stacks") ∧
    (∀ report, FrequentStacksReport.of profiles = .ok report →
      FrequentStacksRow.extremes.Reported Profile.benchmark profiles report.rows report.all) ∧
    ∀ profile : Profile, ∀ sum, profile.exactTotal communicationCounters = .ok sum →
      FitsInt64 sum → ∃ n, profile.communications = .ok n ∧ n.toInt = sum :=
  ⟨WalksReport.exists_of_iff, fun _ => WalksReport.reported, FrequentStacksReport.exists_of_iff,
    fun _ => FrequentStacksReport.reported, fun _ _ => Profile.toInt_total⟩

/-- A run that made some walks and some communications, all of them field reads. -/
def walkingRun (mainClass states : String) (walks communications : Int64) : Profile where
  record := .ofList
    [("Full stack walks", .int walks), ("Communicating field reads", .int communications),
      ("Communicating array reads", .int 0), ("Communicating acquires", .int 0),
      ("frequently communicating stacks", .int walks)]
  options := .ofList [("arrayIndexStates", .string states)]
  mainClass := mainClass
  source := ⟨"run.py"⟩

/-- Runs of two benchmarks, of each with both ways of keeping states. -/
def walkingRuns : List Profile :=
  [walkingRun "JGFCryptBenchSizeA" "false" 3 4, walkingRun "JGFCryptBenchSizeA" "true" 5 1,
    walkingRun "Counter" "true" 2 2, walkingRun "Counter" "false" 7 9,
    walkingRun "JGFCryptBenchSizeA" "false" 1 8]

/-- The row over all runs has the extremes of the two rows above it. -/
theorem walking_runs_reported :
    WalksRow.extremes.Reported (fun profile => .ok profile.className) walkingRuns
      [⟨"Counter", 7, 2, 9, 2, 9, 2⟩, ⟨"Crypt", 3, 5, 8, 1, 4, 1⟩] ⟨"all", 7, 5, 9, 2, 4, 1⟩ ∧
    FrequentStacksRow.extremes.Reported Profile.benchmark walkingRuns
      [⟨"Counter", 7⟩, ⟨"Crypt", 5⟩] ⟨"all", 7⟩ ∧
    ∃ n, (walkingRun "Counter" "true" 2 2).communications = .ok n ∧ n.toInt = 2 := by
  obtain ⟨-, walks, -, frequent, exactly⟩ := extremes_reports_exact walkingRuns
  have walksMade : WalksReport.of walkingRuns =
      .ok ⟨[⟨"Counter", 7, 2, 9, 2, 9, 2⟩, ⟨"Crypt", 3, 5, 8, 1, 4, 1⟩],
        ⟨"all", 7, 5, 9, 2, 4, 1⟩⟩ := rfl
  have frequentMade : FrequentStacksReport.of walkingRuns =
      .ok ⟨[⟨"Counter", 7⟩, ⟨"Crypt", 5⟩], ⟨"all", 7⟩⟩ := rfl
  exact ⟨walks _ walksMade, frequent _ frequentMade, exactly _ 2 rfl (by decide)⟩

end DumpDigest
