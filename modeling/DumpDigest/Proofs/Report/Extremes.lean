import DumpDigest.Proofs.Grouping
import DumpDigest.Proofs.MachineIntegers
import DumpDigest.Report.Aggregate
import Mathlib.Order.Bounds.Basic

/-!
# Reports on extremes

Some reports show the greatest or the least value of counters, for each benchmark and once more for
all runs.  A column of such a report is a counter, the runs that count for it, and one of the two
extremes (`ExtremeColumn`).  `ExtremeRows.exists_report_iff` says when there is a report, and
`ExtremeRows.reported` what is in it.

The row over all runs is computed from the runs and not from the other rows, but it agrees with
them: every value over all runs belongs to one benchmark, so the extreme of all values is the
extreme of the benchmarks' extremes (`Extreme.isOf_of_parts`).
-/

namespace DumpDigest

open Result

/-! ### Extremes of numbers -/

/-- What is greatest of everything is greatest of the greatest of the parts. -/
theorem isGreatest_of_parts {α ρ : Type} [PartialOrder α] {parts : List ρ} {part : ρ → Set α}
    {most : ρ → α} {whole : Set α} {value : α} (each : ∀ p ∈ parts, IsGreatest (part p) (most p))
    (union : ∀ x, x ∈ whole ↔ ∃ p ∈ parts, x ∈ part p) (all : IsGreatest whole value) :
    IsGreatest {x | ∃ p ∈ parts, most p = x} value := by
  have upper : ∀ p ∈ parts, most p ≤ value := by
    intro p member
    exact all.2 ((union _).mpr ⟨p, member, (each p member).1⟩)
  constructor
  · obtain ⟨p, member, inPart⟩ := (union value).mp all.1
    exact ⟨p, member, le_antisymm (upper p member) ((each p member).2 inPart)⟩
  · rintro _ ⟨p, member, rfl⟩
    exact upper p member

/-- The two extremes. -/
inductive Extreme where
  | greatest
  | least

namespace Extreme

/-- Whether a number is the extreme of some numbers. -/
def IsOf : Extreme → Set Int64 → Int64 → Prop
  | greatest => IsGreatest
  | least => IsLeast

/-- The extreme of a list of numbers. -/
def pick? : Extreme → List Int64 → Option Int64
  | greatest => List.max?
  | least => List.min?

/-- The extreme of a counter over runs as reports take it. -/
def ofCounter : Extreme → (Profile → Except FieldError Int64) → RunGroup → List Profile →
    Except ReportError Int64
  | greatest => greatestOf
  | least => leastOf

variable {extreme : Extreme}

theorem pick?_eq_some_iff {values : List Int64} {value : Int64} :
    extreme.pick? values = some value ↔ extreme.IsOf {n | n ∈ values} value := by
  cases extreme with
  | greatest => exact List.max?_eq_some_iff
  | least => exact List.min?_eq_some_iff

theorem pick?_eq_none_iff {values : List Int64} : extreme.pick? values = none ↔ values = [] := by
  cases extreme with
  | greatest => exact List.max?_eq_none_iff
  | least => exact List.min?_eq_none_iff

theorem IsOf.mem {values : Set Int64} {value : Int64} (is : extreme.IsOf values value) :
    value ∈ values := by
  cases extreme with
  | greatest => exact is.1
  | least => exact is.1

/-- **The extreme of everything is the extreme of the extremes of its parts.** -/
theorem isOf_of_parts {ρ : Type} {parts : List ρ} {part : ρ → Set Int64} {entry : ρ → Int64}
    {whole : Set Int64} {value : Int64} (each : ∀ p ∈ parts, extreme.IsOf (part p) (entry p))
    (union : ∀ n, n ∈ whole ↔ ∃ p ∈ parts, n ∈ part p) (all : extreme.IsOf whole value) :
    extreme.IsOf {n | ∃ p ∈ parts, entry p = n} value := by
  cases extreme with
  | greatest => exact isGreatest_of_parts each union all
  | least => exact isGreatest_of_parts (α := Int64ᵒᵈ) each union all

variable {counter : Profile → Except FieldError Int64} {group : RunGroup} {profiles : List Profile}

theorem ofCounter_eq_ok_iff {value : Int64} :
    extreme.ofCounter counter group profiles = .ok value ↔
      ∃ values, profiles.mapM counter = .ok values ∧ extreme.pick? values = some value := by
  cases extreme with
  | greatest =>
    rw [ofCounter, greatestOf, bind_eq_ok_iff]
    refine exists_congr fun values => and_congr mapError_eq_ok_iff ?_
    rw [pick?]
    cases values.max? with
    | none => simp [throw, throwThe, MonadExceptOf.throw]
    | some found => simp [pure, Except.pure]
  | least =>
    rw [ofCounter, leastOf, bind_eq_ok_iff]
    refine exists_congr fun values => and_congr mapError_eq_ok_iff ?_
    rw [pick?]
    cases values.min? with
    | none => simp [throw, throwThe, MonadExceptOf.throw]
    | some found => simp [pure, Except.pure]

end Extreme

/-! ### Columns -/

/-- A column of a report on extremes: the extreme of a counter over the runs that count, and where a
row has it. -/
structure ExtremeColumn (ρ : Type) where
  extreme : Extreme
  counter : Profile → Except FieldError Int64
  counts : Profile → Bool
  entry : ρ → Int64

namespace ExtremeColumn

variable {ρ : Type} {column : ExtremeColumn ρ} {runs : Profile → Prop} {profiles : List Profile}

/-- The values of the column over runs. -/
def values (column : ExtremeColumn ρ) (runs : Profile → Prop) : Set Int64 :=
  {n | ∃ profile, runs profile ∧ column.counts profile = true ∧ column.counter profile = .ok n}

/-- Whether the counter of the column can be read of all runs that count. -/
def Readable (column : ExtremeColumn ρ) (runs : Profile → Prop) : Prop :=
  ∀ profile, runs profile → column.counts profile = true → ∃ n, column.counter profile = .ok n

/-- Whether the column can be computed and shows a number. -/
def Shows (column : ExtremeColumn ρ) (runs : Profile → Prop) (value : Int64) : Prop :=
  column.Readable runs ∧ column.extreme.IsOf (column.values runs) value

theorem readable_iff :
    column.Readable (· ∈ profiles) ↔
      ∃ found, (profiles.filter column.counts).mapM column.counter = .ok found := by
  rw [exists_mapM_eq_ok_iff]
  simp only [Readable, List.mem_filter, and_imp]

theorem values_eq {found : List Int64}
    (read : (profiles.filter column.counts).mapM column.counter = .ok found) :
    {n | n ∈ found} = column.values (· ∈ profiles) := by
  ext n
  simp only [Set.mem_ofPred_eq, mem_mapM_iff read, values, List.mem_filter, and_assoc]

/-- **What a column shows** is what the report takes over the runs that count. -/
theorem computed_iff {group : RunGroup} {value : Int64} :
    column.extreme.ofCounter column.counter group (profiles.filter column.counts) = .ok value ↔
      column.Shows (· ∈ profiles) value := by
  rw [Extreme.ofCounter_eq_ok_iff, Shows, readable_iff]
  constructor
  · rintro ⟨found, read, picked⟩
    refine ⟨⟨found, read⟩, ?_⟩
    rw [← values_eq read]
    exact Extreme.pick?_eq_some_iff.mp picked
  · rintro ⟨⟨found, read⟩, extreme⟩
    rw [← values_eq read] at extreme
    exact ⟨found, read, Extreme.pick?_eq_some_iff.mpr extreme⟩

theorem exists_shows_iff :
    (∃ value, column.Shows (· ∈ profiles) value) ↔
      column.Readable (· ∈ profiles) ∧ ∃ profile ∈ profiles, column.counts profile = true := by
  constructor
  · rintro ⟨value, readable, extreme⟩
    obtain ⟨profile, member, counts, -⟩ := extreme.mem
    exact ⟨readable, profile, member, counts⟩
  · rintro ⟨readable, profile, member, counts⟩
    obtain ⟨found, read⟩ := readable_iff.mp readable
    obtain ⟨n, taken⟩ := readable profile member counts
    have inFound : n ∈ found :=
      (mem_mapM_iff read).mpr ⟨profile, List.mem_filter.mpr ⟨member, counts⟩, taken⟩
    cases picked : column.extreme.pick? found with
    | none =>
      rw [Extreme.pick?_eq_none_iff.mp picked] at inFound
      cases inFound
    | some value =>
      have extreme := Extreme.pick?_eq_some_iff.mp picked
      rw [values_eq read] at extreme
      exact ⟨value, readable, extreme⟩

end ExtremeColumn

/-! ### Rows -/

/-- How a report on extremes makes its rows: a row is made of runs under a label, when every column
can be computed over the runs, and shows what the columns show. -/
structure ExtremeRows (ρ : Type) where
  columns : List (ExtremeColumn ρ)
  label : ρ → String
  make : String → List Profile → Except ReportError ρ
  make_eq_ok_iff : ∀ {name : String} {profiles : List Profile} {row : ρ},
    make name profiles = .ok row ↔
      label row = name ∧ ∀ column ∈ columns, column.Shows (· ∈ profiles) (column.entry row)
  exists_make : ∀ {name : String} {profiles : List Profile},
    (∀ column ∈ columns, ∃ value, column.Shows (· ∈ profiles) value) →
      ∃ row, make name profiles = .ok row
  columns_ne_nil : columns ≠ []

namespace ExtremeRows

variable {ρ : Type} {kind : ExtremeRows ρ} {key : Profile → Except FieldError String}
  {profiles : List Profile}

/-- The rows of the benchmarks, and the row over all runs. -/
def report (kind : ExtremeRows ρ) (key : Profile → Except FieldError String)
    (profiles : List Profile) : Except ReportError (List ρ × ρ) := do
  let groups ← (tryPartition key profiles : Except FieldError _)
  let rows ← groups.mapM fun group => kind.make group.1 group.2
  let all ← kind.make allLabel profiles
  return (rows, all)

theorem report_eq_ok_iff {rows : List ρ} {all : ρ} :
    kind.report key profiles = .ok (rows, all) ↔
      ∃ total : Profile → String, (∀ profile ∈ profiles, key profile = .ok (total profile)) ∧
        (partition total profiles).mapM (fun group => kind.make group.1 group.2) = .ok rows ∧
        kind.make allLabel profiles = .ok all := by
  have unfolded : kind.report key profiles =
      (tryPartition key profiles).mapError .field >>= fun groups =>
        (groups.mapM fun group => kind.make group.1 group.2) >>= fun rows =>
          kind.make allLabel profiles >>= fun all => .ok (rows, all) := rfl
  simp only [unfolded, bind_eq_ok_iff, mapError_eq_ok_iff, tryPartition_eq_ok_iff]
  constructor
  · rintro ⟨_, ⟨total, taken, rfl⟩, _, made, _, madeAll, done⟩
    obtain ⟨rfl, rfl⟩ := Prod.mk.inj (Except.ok.inj done)
    exact ⟨total, taken, made, madeAll⟩
  · rintro ⟨total, taken, made, madeAll⟩
    exact ⟨_, ⟨total, taken, rfl⟩, _, made, _, madeAll, rfl⟩

theorem mem_group_iff {total : Profile → String} {name : String} {group : List Profile}
    (taken : ∀ profile ∈ profiles, key profile = .ok (total profile))
    (member : (name, group) ∈ partition total profiles) (profile : Profile) :
    profile ∈ group ↔ profile ∈ profiles ∧ key profile = .ok name := by
  rw [(mem_partition_iff.mp member).1, mem_itemsAt]
  refine and_congr_right fun inProfiles => ?_
  rw [taken profile inProfiles, Except.ok.injEq]
  constructor
  · exact Std.LawfulEqCmp.eq_of_compare
  · rintro rfl
    exact Std.ReflCmp.compare_self

theorem exists_make_iff {name : String} :
    (∃ row, kind.make name profiles = .ok row) ↔
      ∀ column ∈ kind.columns, column.Readable (· ∈ profiles) ∧
        ∃ profile ∈ profiles, column.counts profile = true := by
  constructor
  · rintro ⟨row, made⟩ column inColumns
    exact ExtremeColumn.exists_shows_iff.mp
      ⟨_, (kind.make_eq_ok_iff.mp made).2 column inColumns⟩
  · intro computable
    refine kind.exists_make fun column inColumns => ?_
    exact ExtremeColumn.exists_shows_iff.mpr (computable column inColumns)

/-- **When there is a report on extremes**: there are runs, all have a benchmark and the counters of
the columns they count for, and every benchmark has a run that counts for each column. -/
theorem exists_report_iff :
    (∃ made, kind.report key profiles = .ok made) ↔
      profiles ≠ [] ∧ (∀ profile ∈ profiles, ∃ name, key profile = .ok name) ∧
      (∀ column ∈ kind.columns, column.Readable (· ∈ profiles)) ∧
      ∀ profile ∈ profiles, ∀ column ∈ kind.columns,
        ∃ other ∈ profiles, key other = key profile ∧ column.counts other = true := by
  constructor
  · rintro ⟨⟨rows, all⟩, made⟩
    obtain ⟨total, taken, rowsMade, allMade⟩ := report_eq_ok_iff.mp made
    have overall := exists_make_iff.mp ⟨all, allMade⟩
    refine ⟨?_, fun profile member => ⟨_, taken profile member⟩,
      fun column inColumns => (overall column inColumns).1, ?_⟩
    · obtain ⟨column, inColumns⟩ := List.exists_mem_of_ne_nil _ kind.columns_ne_nil
      obtain ⟨profile, member, -⟩ := (overall column inColumns).2
      exact List.ne_nil_of_mem member
    · intro profile member column inColumns
      have group : (total profile, itemsAt total (total profile) profiles) ∈
          partition total profiles := group_mem member
      have row := exists_mapM_eq_ok_iff.mp ⟨rows, rowsMade⟩ _ group
      obtain ⟨-, other, inGroup, counts⟩ := exists_make_iff.mp row column inColumns
      obtain ⟨inProfiles, same⟩ := (mem_group_iff taken group other).mp inGroup
      exact ⟨other, inProfiles, same.trans (taken profile member).symm, counts⟩
  · rintro ⟨some, named, readable, present⟩
    choose! total taken using named
    have rows : ∃ rows, (partition total profiles).mapM (fun group => kind.make group.1 group.2) =
        .ok rows := by
      refine exists_mapM_eq_ok_iff.mpr fun group member =>
        exists_make_iff.mpr fun column inColumns => ⟨fun profile inGroup => ?_, ?_⟩
      · have inProfiles := ((mem_group_iff taken member profile).mp inGroup).1
        exact readable column inColumns profile inProfiles
      · obtain ⟨profile, inGroup⟩ := List.exists_mem_of_ne_nil _ (mem_partition_iff.mp member).2
        obtain ⟨inProfiles, here⟩ := (mem_group_iff taken member profile).mp inGroup
        -- The run that counts has the benchmark of the group, so it is in the group as well.
        obtain ⟨other, otherInProfiles, same, counts⟩ := present profile inProfiles column inColumns
        refine ⟨other, (mem_group_iff taken member other).mpr ⟨otherInProfiles, ?_⟩, counts⟩
        rw [same, here]
    have all : ∃ all, kind.make allLabel profiles = .ok all := by
      refine exists_make_iff.mpr fun column inColumns => ⟨readable column inColumns, ?_⟩
      obtain ⟨profile, member⟩ := List.exists_mem_of_ne_nil _ some
      obtain ⟨other, inProfiles, -, counts⟩ := present profile member column inColumns
      exact ⟨other, inProfiles, counts⟩
    obtain ⟨rows, rowsMade⟩ := rows
    obtain ⟨all, allMade⟩ := all
    exact ⟨(rows, all), report_eq_ok_iff.mpr ⟨total, taken, rowsMade, allMade⟩⟩

/-- What is in a report on extremes: the rows are those of the benchmarks, which ascend; each
shows the extremes over exactly the runs of its benchmark, and the row over all runs shows the
extremes of the rows. -/
structure Reported (kind : ExtremeRows ρ) (key : Profile → Except FieldError String)
    (profiles : List Profile) (rows : List ρ) (all : ρ) : Prop where
  ascending : (rows.map kind.label).Pairwise (· < ·)
  benchmarks : ∀ name, name ∈ rows.map kind.label ↔ ∃ profile ∈ profiles, key profile = .ok name
  extremes : ∀ row ∈ rows, ∀ column ∈ kind.columns,
    column.extreme.IsOf
      (column.values fun profile => profile ∈ profiles ∧ key profile = .ok (kind.label row))
      (column.entry row)
  allLabeled : kind.label all = allLabel
  overall : ∀ column ∈ kind.columns,
    column.extreme.IsOf {n | ∃ row ∈ rows, column.entry row = n} (column.entry all)

theorem labels_eq {groups : List (String × List Profile)} {rows : List ρ}
    (made : groups.mapM (fun group => kind.make group.1 group.2) = .ok rows) :
    groups.map (·.1) = rows.map kind.label :=
  map_eq_map_of_mapM made fun _ _ rowMade => (kind.make_eq_ok_iff.mp rowMade).1.symm

theorem reported {rows : List ρ} {all : ρ} (made : kind.report key profiles = .ok (rows, all)) :
    kind.Reported key profiles rows all := by
  obtain ⟨total, taken, rowsMade, allMade⟩ := report_eq_ok_iff.mp made
  obtain ⟨allLabeled, allShows⟩ := kind.make_eq_ok_iff.mp allMade
  have benchmarks : ∀ name, name ∈ rows.map kind.label ↔
      ∃ profile ∈ profiles, key profile = .ok name := by
    intro name
    rw [← labels_eq rowsMade, List.mem_map]
    constructor
    · rintro ⟨group, member, rfl⟩
      obtain ⟨profile, inGroup⟩ := List.exists_mem_of_ne_nil _ (mem_partition_iff.mp member).2
      exact ⟨profile, (mem_group_iff taken member profile).mp inGroup⟩
    · rintro ⟨profile, member, named⟩
      rw [taken profile member] at named
      exact ⟨_, group_mem member, Except.ok.inj named⟩
  have extremes : ∀ row ∈ rows, ∀ column ∈ kind.columns,
      column.extreme.IsOf
        (column.values fun profile => profile ∈ profiles ∧ key profile = .ok (kind.label row))
        (column.entry row) := by
    intro row inRows column inColumns
    obtain ⟨group, member, rowMade⟩ := (mem_mapM_iff rowsMade).mp inRows
    obtain ⟨labeled, shows⟩ := kind.make_eq_ok_iff.mp rowMade
    have runs : (fun profile => profile ∈ profiles ∧ key profile = .ok (kind.label row)) =
        (· ∈ group.2) := by
      funext profile
      rw [labeled]
      exact propext (mem_group_iff taken member profile).symm
    rw [runs]
    exact (shows column inColumns).2
  refine ⟨?_, benchmarks, extremes, allLabeled, fun column inColumns => ?_⟩
  · rw [← labels_eq rowsMade, List.pairwise_map]
    refine (partition_ascending total profiles).imp ?_
    intro first second below
    exact compareOfLessAndEq_eq_lt.mp below
  · refine Extreme.isOf_of_parts (fun row inRows => extremes row inRows column inColumns) ?_
      (allShows column inColumns).2
    -- Every run has a benchmark, so every value over all runs is one over the runs of a row.
    intro n
    constructor
    · rintro ⟨profile, member, counts, value⟩
      obtain ⟨row, inRows, labeled⟩ := List.mem_map.mp
        ((benchmarks (total profile)).mpr ⟨profile, member, taken profile member⟩)
      refine ⟨row, inRows, profile, ⟨member, ?_⟩, counts, value⟩
      rw [labeled, taken profile member]
    · rintro ⟨row, -, profile, ⟨member, -⟩, counts, value⟩
      exact ⟨profile, member, counts, value⟩

end ExtremeRows

end DumpDigest
