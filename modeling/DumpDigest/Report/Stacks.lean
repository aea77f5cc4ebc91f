import DumpDigest.Json.Basic
import DumpDigest.Report.Aggregate
import DumpDigest.Report.Table

/-! # The stack report

The mean shape of the stacks that communicated, by benchmark.
-/

namespace DumpDigest

/-- The mean stack shape of a benchmark. -/
structure StackShapeRow where
  benchmark : String
  /-- Methods in a segment. -/
  segmentLength : Float
  /-- Methods in a stack. -/
  depthInMethods : Float
  /-- Segments in a stack. -/
  depthInSegments : Float

structure StacksReport where
  rows : List StackShapeRow

namespace StackShapeRow

/-- The row of a benchmark's runs. -/
def of (benchmark : String) (profiles : List Profile) : Except FieldError StackShapeRow := do
  let lengths ← profiles.mapM Profile.segmentLengths
  let depths ← profiles.mapM Profile.stackDepths
  let segments ← profiles.mapM Profile.segmentCounts
  return ⟨benchmark, distributionAverage false lengths, distributionAverage false depths,
    distributionAverage false segments⟩

/-- The means of a row in the order of the columns. -/
def means (row : StackShapeRow) : List Float :=
  [row.segmentLength, row.depthInMethods, row.depthInSegments]

def cells (row : StackShapeRow) : List String :=
  row.benchmark :: row.means.map (Decimal.fixed 6)

def toJson (row : StackShapeRow) : Json :=
  .object (("benchmark", .string row.benchmark) ::
    ["mean_segment_length", "mean_depth_methods", "mean_depth_segments"].zip
      (row.means.map .number))

end StackShapeRow

namespace StacksReport

/-- The stack report of some runs. -/
def of (profiles : List Profile) : Except ReportError StacksReport := do
  let rows ← ((partition Profile.className profiles).mapM fun (benchmark, group) =>
    StackShapeRow.of benchmark group : Except FieldError _)
  return ⟨rows⟩

def table (report : StacksReport) : Table where
  title := "Communicating stacks"
  headings := ["Benchmark", "Segment size", "Depth (methods)", "Depth (segments)"]
  rows := report.rows.map StackShapeRow.cells

def text (report : StacksReport) : String :=
  report.table.text

def toJson (report : StacksReport) : Json :=
  .object [("rows", .array (report.rows.map StackShapeRow.toJson))]

end StacksReport

end DumpDigest
