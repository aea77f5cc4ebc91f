import DumpDigest.Json.Basic
import DumpDigest.Report.Aggregate
import DumpDigest.Report.Table
import DumpDigest.StaticStats
import DumpDigest.Value.Display

/-! # The module report

The modules of each benchmark and the methods in a module, on average and over all benchmarks.
-/

namespace DumpDigest

/-- The modules of a benchmark. -/
structure ModulesRow where
  benchmark : String
  modules : UInt64
  averageMethods : Float

structure ModulesReport where
  rows : List ModulesRow
  overall : Float

namespace ModulesRow

def cells (row : ModulesRow) : List String :=
  [row.benchmark, countText row.modules, ratioText row.averageMethods]

def toJson (row : ModulesRow) : Json :=
  .object [("benchmark", .string row.benchmark), ("modules", .integer row.modules.toNat),
    ("avg_methods_per_module", .number row.averageMethods)]

end ModulesRow

namespace ModulesReport

/-- The module report of some summaries. -/
def of (summaries : List StaticStats) : Except ReportError ModulesReport := do
  let distributions ← (summaries.mapM fun stats => (stats, ·) <$> stats.methods :
    Except FieldError _)
  let rows := distributions.map fun (stats, counts) =>
    (⟨stats.name, distributionCount [counts], distributionAverage false [counts]⟩ : ModulesRow)
  let methods := totalOf (distributions.map fun (_, counts) => distributionTotal [counts])
  let modules := totalOf (rows.map (·.modules))
  let overall ← ratio (Float.ofInt methods.toInt) (Float.ofNat modules.toNat) .modules
  return ⟨rows, overall⟩

def table (report : ModulesReport) : Table where
  title := "Modules"
  headings := ["Benchmark", "Modules", "Methods per module"]
  rows := report.rows.map ModulesRow.cells

def text (report : ModulesReport) : String :=
  report.table.text ++ "\n  Overall methods per module: " ++ ratioText report.overall

def toJson (report : ModulesReport) : Json :=
  .object [("rows", .array (report.rows.map ModulesRow.toJson)),
    ("overall_methods_per_module", .number report.overall)]

end ModulesReport

end DumpDigest
