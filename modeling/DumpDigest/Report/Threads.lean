import DumpDigest.Json.Basic
import DumpDigest.Report.Aggregate
import DumpDigest.Report.Table
import DumpDigest.Value.Display

/-! # The thread report

The thread counts that the DaCapo runs recorded, by benchmark.
-/

namespace DumpDigest

/-- The thread counts of a benchmark's runs. -/
structure ThreadsRow where
  benchmark : String
  threads : List Int64

structure ThreadsReport where
  rows : List ThreadsRow

namespace ThreadsReport

/-- The thread report of some runs. -/
def of (profiles : List Profile) : Except ReportError ThreadsReport := do
  let groups ← tryPartition (fun profile => Text.capitalize <$> profile.harnessName) profiles
  let rows ← (groups.mapM fun (benchmark, group) => do
    let threads ← group.mapM Profile.threads
    return ⟨benchmark, threads⟩ : Except FieldError _)
  return ⟨rows⟩

def table (report : ThreadsReport) : Table where
  title := "Threads per run"
  headings := ["Benchmark", "Threads"]
  rows := report.rows.map fun row => [row.benchmark, bracketed (row.threads.map integerText)]

def text (report : ThreadsReport) : String :=
  report.table.text

def toJson (report : ThreadsReport) : Json :=
  .object [("rows", .array (report.rows.map fun row =>
    .object [("benchmark", .string row.benchmark),
      ("threads", .array (row.threads.map fun n => .integer n.toInt))]))]

end ThreadsReport

end DumpDigest
