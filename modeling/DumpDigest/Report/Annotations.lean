import DumpDigest.Json.Basic
import DumpDigest.Report.Aggregate
import DumpDigest.Report.Table
import DumpDigest.StaticStats
import DumpDigest.Value.Display

/-! # Annotation reports

How many annotations the methods of a benchmark carry: by kind, with the DaCapo benchmarks at the
end, or all kinds together.
-/

namespace DumpDigest

/-- The benchmarks of the DaCapo suite as static summaries name them. -/
def daCapoBenchmarks : List String := ["avrora", "batik", "xalan"]

namespace StaticStats

/-- The methods of a benchmark. -/
def methodTotal (stats : StaticStats) : Except FieldError Int64 :=
  stats.total methods

/-- A number for each method of a benchmark. -/
def perMethod (count : Int64) (stats : StaticStats) : Except ReportError Float := do
  let methods ← stats.methodTotal
  ratio (Float.ofInt count.toInt) (Float.ofInt methods.toInt) (.methodsOf stats.name)

end StaticStats

/-- The annotations of a benchmark for each method, and in total. -/
structure AnnotationsRow where
  benchmark : String
  groupMember : Float
  groupDeclaration : Float
  nonCommunicator : Float
  inlining : Float
  moduleMember : Float
  total : Int64
  communicationGroups : Int64

structure AnnotationsReport where
  rows : List AnnotationsRow
  overall : Float

/-- All annotations of a benchmark for each method. -/
structure ConcisenessRow where
  benchmark : String
  annotations : Float

structure ConcisenessReport where
  rows : List ConcisenessRow
  overall : Float

/-! ### By kind -/

namespace AnnotationsRow

/-- The row of a benchmark. -/
def of (stats : StaticStats) : Except ReportError AnnotationsRow := do
  let totals ← stats.annotationTotals
  let groupMember ← stats.perMethod totals.groupMember
  let groupDeclaration ← stats.perMethod totals.groupDeclaration
  let nonCommunicator ← stats.perMethod totals.nonCommunicator
  let inlining ← stats.perMethod totals.inlining
  let moduleMember ← stats.perMethod totals.moduleMember
  let groups ← stats.total StaticStats.communicationGroups
  return ⟨stats.name, groupMember, groupDeclaration, nonCommunicator, inlining, moduleMember,
    totals.sum, groups⟩

/-- Whether the row belongs to DaCapo. -/
def isDaCapo (row : AnnotationsRow) : Bool :=
  daCapoBenchmarks.contains row.benchmark

/-- The densities of a row in the order of the columns. -/
def densities (row : AnnotationsRow) : List Float :=
  [row.groupMember, row.groupDeclaration, row.nonCommunicator, row.inlining, row.moduleMember]

def cells (row : AnnotationsRow) : List String :=
  row.benchmark :: row.densities.map ratioText ++
    [integerText row.total, integerText row.communicationGroups]

def toJson (row : AnnotationsRow) : Json :=
  .object (("benchmark", .string row.benchmark) ::
    ["group_member", "group_decl", "non_comm", "inline", "module_member"].zip
      (row.densities.map .number) ++
    [("total_annotations", .integer row.total.toInt),
      ("comm_groups", .integer row.communicationGroups.toInt)])

end AnnotationsRow

namespace AnnotationsReport

/-- The annotation report of some summaries. -/
def of (summaries : List StaticStats) : Except ReportError AnnotationsReport := do
  let measured ← summaries.mapM fun stats => do
    let row ← AnnotationsRow.of stats
    let methods ← stats.methodTotal
    return (row, methods)
  let (daCapo, others) := bisect AnnotationsRow.isDaCapo (measured.map (·.1))
  let annotations := totalOf (measured.map (·.1.total))
  let methods := totalOf (measured.map (·.2))
  let overall ← ratio (Float.ofInt annotations.toInt) (Float.ofInt methods.toInt) .methods
  return ⟨others ++ daCapo, overall⟩

def table (report : AnnotationsReport) : Table where
  title := "Annotations per method"
  headings :=
    ["Benchmark", "Group member", "Group decl", "Non-comm", "Inline", "Module member", "Total",
      "Comm groups"]
  rows := report.rows.map AnnotationsRow.cells

def text (report : AnnotationsReport) : String :=
  report.table.text ++ "\n  Overall: " ++ ratioText report.overall

def toJson (report : AnnotationsReport) : Json :=
  .object [("rows", .array (report.rows.map AnnotationsRow.toJson)),
    ("overall_per_method", .number report.overall)]

end AnnotationsReport

/-! ### All kinds together -/

namespace ConcisenessRow

def cells (row : ConcisenessRow) : List String :=
  [row.benchmark, ratioText row.annotations]

def toJson (row : ConcisenessRow) : Json :=
  .object [("benchmark", .string row.benchmark),
    ("annotations_per_method", .number row.annotations)]

end ConcisenessRow

namespace ConcisenessReport

/-- The conciseness report of some summaries. -/
def of (summaries : List StaticStats) : Except ReportError ConcisenessReport := do
  let measured ← summaries.mapM fun stats => do
    let annotations ← stats.annotationTotal
    let density ← stats.perMethod annotations
    let methods ← stats.methodTotal
    return ((⟨stats.name, density⟩ : ConcisenessRow), annotations, methods)
  let annotations := totalOf (measured.map (·.2.1))
  let methods := totalOf (measured.map (·.2.2))
  let overall ← ratio (Float.ofInt annotations.toInt) (Float.ofInt methods.toInt) .methods
  return ⟨measured.map (·.1), overall⟩

def table (report : ConcisenessReport) : Table where
  title := "Conciseness"
  headings := ["Benchmark", "Annotations per method"]
  rows := report.rows.map ConcisenessRow.cells

def text (report : ConcisenessReport) : String :=
  report.table.text ++ "\n  Overall: " ++ ratioText report.overall

def toJson (report : ConcisenessReport) : Json :=
  .object [("rows", .array (report.rows.map ConcisenessRow.toJson)),
    ("overall_per_method", .number report.overall)]

end ConcisenessReport

end DumpDigest
