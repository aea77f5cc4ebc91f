import DumpDigest.Decimal.Binary
import DumpDigest.Json.Basic
import DumpDigest.Report.Aggregate
import DumpDigest.Report.Table
import DumpDigest.Value.Display

/-! # The precision report

How much of each used specification a run exercised, in nodes and in edges. Every run outside DaCapo
has a row; of the runs of one DaCapo benchmark only the first counts.
-/

namespace DumpDigest

/-- The nodes and edges of a run and of its specification. -/
structure PrecisionRow where
  benchmark : String
  runNodes : Int64
  specifiedNodes : Int64
  runEdges : Int64
  specifiedEdges : Int64
  deriving DecidableEq

structure PrecisionReport where
  javaGrande : List PrecisionRow
  daCapo : List PrecisionRow

namespace PrecisionRow

/-- A part in percent of a whole, zero if the whole is empty. -/
def percent (part whole : Int64) : Float :=
  if whole = 0 then 0.0 else Float.ofInt part.toInt / Float.ofInt whole.toInt * 100.0

def nodePrecision (row : PrecisionRow) : Float :=
  percent row.runNodes row.specifiedNodes

def edgePrecision (row : PrecisionRow) : Float :=
  percent row.runEdges row.specifiedEdges

/-- The row of a run. -/
def of (benchmark : String) (profile : Profile) : Except FieldError PrecisionRow := do
  let runNodes ← profile.runNodes
  let specifiedNodes ← profile.specifiedNodes
  let runEdges ← profile.runEdges
  let specifiedEdges ← profile.specifiedEdges
  return ⟨benchmark, runNodes, specifiedNodes, runEdges, specifiedEdges⟩

/-- Rows by benchmark, then by the precision of nodes, then by that of edges. -/
def precedes (first second : PrecisionRow) : Bool :=
  let order (precision : PrecisionRow → Float) : Ordering :=
    compare (Decimal.totalOrderKey (precision first)) (Decimal.totalOrderKey (precision second))
  ((compare first.benchmark second.benchmark).then
    ((order nodePrecision).then (order edgePrecision))).isLE

def cells (row : PrecisionRow) : List String :=
  [row.benchmark, integerText row.runNodes ++ "/" ++ integerText row.specifiedNodes,
    integerText row.runEdges ++ "/" ++ integerText row.specifiedEdges,
    Decimal.fixed 1 row.nodePrecision, Decimal.fixed 1 row.edgePrecision]

def toJson (row : PrecisionRow) : Json :=
  .object [("benchmark", .string row.benchmark), ("run_nodes", .integer row.runNodes.toInt),
    ("spec_nodes", .integer row.specifiedNodes.toInt), ("run_edges", .integer row.runEdges.toInt),
    ("spec_edges", .integer row.specifiedEdges.toInt),
    ("node_precision", .number row.nodePrecision), ("edge_precision", .number row.edgePrecision)]

end PrecisionRow

namespace PrecisionReport

/-- The rows of the runs in order, DaCapo benchmarks that were already `seen` left out. -/
def collect (seen : List String) : List Profile → Except FieldError PrecisionReport
  | [] => .ok ⟨[], []⟩
  | profile :: profiles => do
    if profile.mainClass = harnessClass then
      let name ← Text.capitalize <$> profile.harnessName
      if seen.contains name then
        collect seen profiles
      else
        let row ← PrecisionRow.of name profile
        let others ← collect (name :: seen) profiles
        return { others with daCapo := row :: others.daCapo }
    else
      let row ← PrecisionRow.of (Text.capitalize profile.className) profile
      let others ← collect seen profiles
      return { others with javaGrande := row :: others.javaGrande }

/-- The precision report of some runs. -/
def of (profiles : List Profile) : Except ReportError PrecisionReport := do
  let rows ← collect [] profiles
  return ⟨rows.javaGrande.mergeSort PrecisionRow.precedes,
    rows.daCapo.mergeSort PrecisionRow.precedes⟩

def table (report : PrecisionReport) : Table where
  title := "Specification precision"
  headings := ["Benchmark", "Nodes (run/spec)", "Edges (run/spec)", "Node %", "Edge %"]
  rows := (report.javaGrande ++ report.daCapo).map PrecisionRow.cells

def text (report : PrecisionReport) : String :=
  report.table.text

def toJson (report : PrecisionReport) : Json :=
  .object [("jgf", .array (report.javaGrande.map PrecisionRow.toJson)),
    ("dacapo", .array (report.daCapo.map PrecisionRow.toJson))]

end PrecisionReport

end DumpDigest
