import DumpDigest.Json.Basic
import DumpDigest.Report.Aggregate
import DumpDigest.Report.Table
import DumpDigest.Value.Display

/-! # The stack walk report

The extremes of full stack walks and of communications by benchmark and over all runs, separately
for the two ways of keeping array states.
-/

namespace DumpDigest

/-- The extremes of a benchmark. -/
structure WalksRow where
  benchmark : String
  mostWalksArray : Int64
  mostWalksIndex : Int64
  mostCommunicationsArray : Int64
  mostCommunicationsIndex : Int64
  fewestCommunicationsArray : Int64
  fewestCommunicationsIndex : Int64

structure WalksReport where
  rows : List WalksRow
  all : WalksRow

namespace WalksRow

/-- The row of a benchmark's runs. -/
def of (benchmark : String) (profiles : List Profile) : Except ReportError WalksRow := do
  let (array, index) := splitArrayStates profiles
  let mostWalksArray ← greatestOf Profile.stackWalks (.arrayStates benchmark) array
  let mostWalksIndex ← greatestOf Profile.stackWalks (.indexStates benchmark) index
  let mostArray ← greatestOf Profile.communications (.arrayStates benchmark) array
  let mostIndex ← greatestOf Profile.communications (.indexStates benchmark) index
  let fewestArray ← leastOf Profile.communications (.arrayStates benchmark) array
  let fewestIndex ← leastOf Profile.communications (.indexStates benchmark) index
  return ⟨benchmark, mostWalksArray, mostWalksIndex, mostArray, mostIndex, fewestArray,
    fewestIndex⟩

/-- The numbers of a row in the order of the columns. -/
def numbers (row : WalksRow) : List Int64 :=
  [row.mostWalksArray, row.mostWalksIndex, row.mostCommunicationsArray,
    row.mostCommunicationsIndex, row.fewestCommunicationsArray, row.fewestCommunicationsIndex]

def cells (row : WalksRow) : List String :=
  row.benchmark :: row.numbers.map integerText

def toJson (row : WalksRow) : Json :=
  .object (("benchmark", .string row.benchmark) ::
    ["max_walks_array", "max_walks_index", "max_comms_array", "max_comms_index",
      "min_comms_array", "min_comms_index"].zip
        (row.numbers.map fun n => .integer n.toInt))

end WalksRow

namespace WalksReport

/-- The stack walk report of some runs. -/
def of (profiles : List Profile) : Except ReportError WalksReport := do
  let rows ← (partition Profile.className profiles).mapM fun (benchmark, group) =>
    WalksRow.of benchmark group
  let all ← WalksRow.of allLabel profiles
  return ⟨rows, all⟩

def table (report : WalksReport) : Table where
  title := "Stack walks and communications"
  headings :=
    ["Benchmark", "Max walks (array)", "Max walks (index)", "Max comms (array)",
      "Max comms (index)", "Min comms (array)", "Min comms (index)"]
  rows := (report.rows ++ [report.all]).map WalksRow.cells

def text (report : WalksReport) : String :=
  report.table.text

def toJson (report : WalksReport) : Json :=
  .object [("rows", .array (report.rows.map WalksRow.toJson)), ("all", report.all.toJson)]

end WalksReport

end DumpDigest
