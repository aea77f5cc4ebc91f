import DumpDigest.Json.Basic
import DumpDigest.Report.Aggregate
import DumpDigest.Report.Table

/-! # The check report

How checks were resolved, as fractions of all checks: without communication, in the fast memo, in
the slow memo, or by a full stack walk. The two suites are reported separately.
-/

namespace DumpDigest

/-- The fractions of checks by how they were resolved. -/
structure CheckFractions where
  threadLocal : Float
  fastMemo : Float
  slowMemo : Float
  stackWalk : Float

/-- The fractions of a benchmark. -/
structure ChecksRow where
  benchmark : String
  /-- Runs with one state per array. -/
  array : CheckFractions
  /-- Runs with one state per element. -/
  index : CheckFractions

structure ChecksReport where
  javaGrande : List ChecksRow
  daCapo : List ChecksRow
  all : ChecksRow

namespace CheckFractions

/-- The fractions of some runs. -/
def of (label : String) (profiles : List Profile) : Except ReportError CheckFractions := do
  let checks ← sumOf Profile.checks profiles
  let share (counter : Profile → Except FieldError Int64) : Except ReportError Float := do
    let hits ← sumOf counter profiles
    ratio (Float.ofInt hits.toInt) (Float.ofInt checks.toInt) (.checks label)
  let threadLocal ← share Profile.threadLocalHits
  let fastMemo ← share Profile.fastMemoHits
  let slowMemo ← share Profile.slowMemoHits
  let stackWalk ← share Profile.stackWalks
  return ⟨threadLocal, fastMemo, slowMemo, stackWalk⟩

def cells (fractions : CheckFractions) : List String :=
  [fractions.threadLocal, fractions.fastMemo, fractions.slowMemo, fractions.stackWalk].map
    percentText

def toJson (fractions : CheckFractions) : Json :=
  .object [("thread_local", .number fractions.threadLocal),
    ("fast_memo", .number fractions.fastMemo), ("slow_memo", .number fractions.slowMemo),
    ("stack_walk", .number fractions.stackWalk)]

end CheckFractions

namespace ChecksRow

/-- The row of a benchmark's runs. -/
def of (benchmark : String) (profiles : List Profile) : Except ReportError ChecksRow := do
  let (array, index) := splitArrayStates profiles
  let array ← CheckFractions.of (benchmark ++ " (array states)") array
  let index ← CheckFractions.of (benchmark ++ " (index states)") index
  return ⟨benchmark, array, index⟩

/-- The rows of a suite. -/
def ofSuite (profiles : List Profile) : Except ReportError (List ChecksRow) := do
  let groups ← (tryPartition Profile.capitalizedBenchmark profiles : Except FieldError _)
  groups.mapM fun (benchmark, group) => ChecksRow.of benchmark group

def cells (row : ChecksRow) : List String :=
  row.benchmark :: row.array.cells ++ row.index.cells

def toJson (row : ChecksRow) : Json :=
  .object [("benchmark", .string row.benchmark), ("array", row.array.toJson),
    ("index", row.index.toJson)]

/-- Rows as a table. -/
def table (title : String) (rows : List ChecksRow) : Table where
  title := title
  headings :=
    ["Benchmark", "Array: thread-local", "fast memo", "slow memo", "stack walk",
      "Element: thread-local", "fast memo", "slow memo", "stack walk"]
  rows := rows.map cells

end ChecksRow

namespace ChecksReport

/-- The check report of some runs. -/
def of (profiles : List Profile) : Except ReportError ChecksReport := do
  let (javaGrande, daCapo) := bisect Profile.isJavaGrande profiles
  let javaGrande ← ChecksRow.ofSuite javaGrande
  let daCapo ← ChecksRow.ofSuite daCapo
  let all ← ChecksRow.of allLabel profiles
  return ⟨javaGrande, daCapo, all⟩

/-- The three tables of the report, each behind the other after a blank line. -/
def text (report : ChecksReport) : String :=
  (ChecksRow.table "Java Grande checks" report.javaGrande).text ++ "\n\n" ++
    (ChecksRow.table "DaCapo checks" report.daCapo).text ++ "\n\n" ++
    (ChecksRow.table "Across all runs" [report.all]).text ++ "\n"

def toJson (report : ChecksReport) : Json :=
  .object [("jgf", .array (report.javaGrande.map ChecksRow.toJson)),
    ("dacapo", .array (report.daCapo.map ChecksRow.toJson)), ("all", report.all.toJson)]

end ChecksReport

end DumpDigest
