import DumpDigest.Json.Basic
import DumpDigest.Report.Aggregate
import DumpDigest.Report.Table
import DumpDigest.Value.Display

/-! # The report on frequently communicating stacks

The greatest number of frequently communicating stacks in a run, by benchmark and over all runs.
-/

namespace DumpDigest

/-- The greatest number of a benchmark. -/
structure FrequentStacksRow where
  benchmark : String
  most : Int64

structure FrequentStacksReport where
  rows : List FrequentStacksRow
  all : FrequentStacksRow

namespace FrequentStacksRow

/-- The row of a benchmark's runs. -/
def of (benchmark : String) (profiles : List Profile) : Except ReportError FrequentStacksRow := do
  let most ← greatestOf Profile.frequentStacks (.all benchmark) profiles
  return ⟨benchmark, most⟩

def cells (row : FrequentStacksRow) : List String :=
  [row.benchmark, integerText row.most]

def toJson (row : FrequentStacksRow) : Json :=
  .object [("benchmark", .string row.benchmark), ("max_frequent_stacks", .integer row.most.toInt)]

end FrequentStacksRow

namespace FrequentStacksReport

/-- The report on frequently communicating stacks of some runs. -/
def of (profiles : List Profile) : Except ReportError FrequentStacksReport := do
  let groups ← (tryPartition Profile.benchmark profiles : Except FieldError _)
  let rows ← groups.mapM fun (benchmark, group) => FrequentStacksRow.of benchmark group
  let all ← FrequentStacksRow.of allLabel profiles
  return ⟨rows, all⟩

def table (report : FrequentStacksReport) : Table where
  title := "Frequently communicating call stacks"
  headings := ["Benchmark", "Max stacks"]
  rows := (report.rows ++ [report.all]).map FrequentStacksRow.cells

def text (report : FrequentStacksReport) : String :=
  report.table.text

def toJson (report : FrequentStacksReport) : Json :=
  .object [("rows", .array (report.rows.map FrequentStacksRow.toJson)),
    ("all", report.all.toJson)]

end FrequentStacksReport

end DumpDigest
