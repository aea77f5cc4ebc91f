import DumpDigest.Decimal.Binary
import DumpDigest.Json.Basic
import DumpDigest.Report.Aggregate
import DumpDigest.Report.Table

/-! # Overhead reports

What instrumentation costs: the total of a measure over the instrumented runs of a benchmark, over
its total over the baseline runs. Slowdown is reported by thread count, peak memory over all runs,
and both once more for the runs with one state per element at eight threads; there the instrumented
side has element states only, while the baseline keeps every run without instrumentation.
-/

namespace DumpDigest

/-- The overhead of a benchmark. -/
structure OverheadRow where
  benchmark : String
  ratio : Float

/-- The overheads at a thread count. -/
structure ThreadGroup where
  threads : UInt32
  rows : List OverheadRow

structure SlowdownReport where
  byThreads : List ThreadGroup

structure MemoryReport where
  rows : List OverheadRow

/-- What element states may cost more of. -/
inductive ElementMeasure where
  | runtime
  | peakMemory
  deriving DecidableEq

structure ElementStatesReport where
  measure : ElementMeasure
  threads : UInt32
  rows : List OverheadRow

namespace OverheadRow

/-- Rows by benchmark, then by ratio. -/
def precedes (first second : OverheadRow) : Bool :=
  match compare first.benchmark second.benchmark with
  | .lt => true
  | .eq => Decimal.totalOrderKey first.ratio ≤ Decimal.totalOrderKey second.ratio
  | .gt => false

/-- The row of a benchmark with its instrumented and its baseline runs. -/
def of (measure : Profile → Except FieldError Float) (name benchmark : String)
    (instrumented baseline : List Profile) : Except ReportError OverheadRow := do
  let cost ← measureOf measure instrumented
  let base ← measureOf measure baseline
  let quotient ← DumpDigest.ratio cost base (.baseline name benchmark)
  return ⟨benchmark, quotient⟩

/-- The rows of some runs, one for each benchmark. -/
def ofRuns (measure : Profile → Except FieldError Float) (name : String)
    (profiles : List Profile) : Except ReportError (List OverheadRow) := do
  let rows ← (partition Profile.className profiles).mapM fun (benchmark, group) =>
    let (instrumented, baseline) := splitInstrumented group
    of measure name benchmark instrumented baseline
  return rows.mergeSort precedes

def cells (row : OverheadRow) : List String :=
  [row.benchmark, ratioText row.ratio]

def toJson (row : OverheadRow) : Json :=
  .object [("benchmark", .string row.benchmark), ("ratio", .number row.ratio)]

end OverheadRow

namespace SlowdownReport

/-- The slowdown report of some runs. -/
def of (profiles : List Profile) : Except ReportError SlowdownReport := do
  let groups ← (tryPartition Profile.threadCount profiles : Except FieldError _)
  let byThreads ← groups.mapM fun (threads, group) => do
    let rows ← OverheadRow.ofRuns Profile.runtime "runtime" group
    return ⟨threads, rows⟩
  return ⟨byThreads⟩

/-- The table of a thread count. -/
def table (group : ThreadGroup) : Table where
  title := "Slowdown with " ++ group.threads.toNat.repr ++ " threads"
  headings := ["Benchmark", "Slowdown"]
  rows := group.rows.map OverheadRow.cells

/-- A table for each thread count, with blank lines between them. -/
def text (report : SlowdownReport) : String :=
  "\n".intercalate (report.byThreads.map fun group => (table group).text ++ "\n")

def toJson (report : SlowdownReport) : Json :=
  .object [("by_threads", .array (report.byThreads.map fun group =>
    .object [("threads", .integer group.threads.toNat),
      ("rows", .array (group.rows.map OverheadRow.toJson))]))]

end SlowdownReport

namespace MemoryReport

/-- The memory report of some runs. -/
def of (profiles : List Profile) : Except ReportError MemoryReport := do
  let rows ← OverheadRow.ofRuns Profile.peakMemory "peak memory" profiles
  return ⟨rows⟩

def table (report : MemoryReport) : Table where
  title := "Peak memory overhead"
  headings := ["Benchmark", "Overhead"]
  rows := report.rows.map OverheadRow.cells

def text (report : MemoryReport) : String :=
  report.table.text

def toJson (report : MemoryReport) : Json :=
  .object [("rows", .array (report.rows.map OverheadRow.toJson))]

end MemoryReport

namespace ElementMeasure

/-- The heading of a measure. -/
def heading : ElementMeasure → String
  | runtime => "Slowdown"
  | peakMemory => "Memory overhead"

/-- The word for a measure in messages. -/
def name : ElementMeasure → String
  | runtime => "runtime"
  | peakMemory => "peak memory"

/-- A measure of a run. -/
def ofRun : ElementMeasure → Profile → Except FieldError Float
  | runtime => Profile.runtime
  | peakMemory => Profile.peakMemory

end ElementMeasure

namespace ElementStatesReport

/-- The thread count of the runs that are compared. -/
def threadCount : UInt32 := 8

/-- The report on element states of some runs. -/
def of (measure : ElementMeasure) (profiles : List Profile) :
    Except ReportError ElementStatesReport := do
  let selected := profiles.filter (·.runsWith threadCount)
  let rows ← (partition Profile.className selected).mapM fun (benchmark, group) =>
    let (instrumented, baseline) := splitInstrumented group
    let (elementStates, _) :=
      bisect (·.shows (wanting "arrayIndexStates" "true")) instrumented
    OverheadRow.of measure.ofRun measure.name benchmark elementStates baseline
  return ⟨measure, threadCount, rows.mergeSort OverheadRow.precedes⟩

def table (report : ElementStatesReport) : Table where
  title := report.measure.heading ++ " with element states, " ++ report.threads.toNat.repr ++
    " threads"
  headings := ["Benchmark", report.measure.heading]
  rows := report.rows.map OverheadRow.cells

def text (report : ElementStatesReport) : String :=
  report.table.text

def toJson (report : ElementStatesReport) : Json :=
  .object [("measure", .string report.measure.heading),
    ("threads", .integer report.threads.toNat),
    ("rows", .array (report.rows.map OverheadRow.toJson))]

end ElementStatesReport

end DumpDigest
