import DumpDigest.Report.Annotations

/-! # The inlining report

How many methods of each benchmark are inlined.
-/

namespace DumpDigest

/-- The inlined methods of a benchmark and the others. -/
structure InliningRow where
  benchmark : String
  inlined : Int64
  notInlined : Int64
  deriving DecidableEq

structure InliningReport where
  rows : List InliningRow
  /-- The inlined part of all methods. -/
  overall : Float

namespace InliningRow

def cells (row : InliningRow) : List String :=
  [row.benchmark, integerText row.inlined, integerText row.notInlined]

def toJson (row : InliningRow) : Json :=
  .object [("benchmark", .string row.benchmark), ("inlined", .integer row.inlined.toInt),
    ("not_inlined", .integer row.notInlined.toInt)]

end InliningRow

namespace InliningReport

/-- The inlining report of some summaries. -/
def of (summaries : List StaticStats) : Except ReportError InliningReport := do
  let measured ← (summaries.mapM fun stats => do
    let inlined ← stats.total StaticStats.inlinedMethods
    let methods ← stats.methodTotal
    return ((⟨stats.name, inlined, methods - inlined⟩ : InliningRow), methods) :
    Except FieldError _)
  let inlined := totalOf (measured.map (·.1.inlined))
  let methods := totalOf (measured.map (·.2))
  let overall ← ratio (Float.ofInt inlined.toInt) (Float.ofInt methods.toInt) .methods
  return ⟨measured.map (·.1), overall⟩

def table (report : InliningReport) : Table where
  title := "Inlining"
  headings := ["Benchmark", "Inlined", "Not inlined"]
  rows := report.rows.map InliningRow.cells

def text (report : InliningReport) : String :=
  report.table.text ++ "\n  Overall: " ++ percentText report.overall

def toJson (report : InliningReport) : Json :=
  .object [("rows", .array (report.rows.map InliningRow.toJson)),
    ("overall_inlined", .number report.overall)]

end InliningReport

end DumpDigest
