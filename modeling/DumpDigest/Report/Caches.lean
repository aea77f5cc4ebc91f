import DumpDigest.Json.Basic
import DumpDigest.Report.Aggregate
import DumpDigest.Report.Table

/-! # The cache report

The hit rates of the array cache by benchmark and over all runs, separately for runs with one state
per array and runs with one state per element.
-/

namespace DumpDigest

/-- The hit rates of a benchmark. -/
structure CacheRow where
  benchmark : String
  arrayStates : Float
  indexStates : Float

structure CachesReport where
  rows : List CacheRow
  all : CacheRow

namespace CacheRow

/-- Hits over lookups, which are hits and misses modulo `2 ^ 64`. -/
def hitRate (benchmark mode : String) (profiles : List Profile) : Except ReportError Float := do
  let hits ← sumOf Profile.arrayHits profiles
  let misses ← sumOf Profile.arrayMisses profiles
  ratio (Float.ofInt hits.toInt) (Float.ofInt (hits + misses).toInt)
    (.cacheLookups benchmark mode)

/-- The row of a benchmark's runs. -/
def of (benchmark : String) (profiles : List Profile) : Except ReportError CacheRow := do
  let (array, index) := splitArrayStates profiles
  let arrayStates ← hitRate benchmark "array states" array
  let indexStates ← hitRate benchmark "index states" index
  return ⟨benchmark, arrayStates, indexStates⟩

def cells (row : CacheRow) : List String :=
  [row.benchmark, ratioText row.arrayStates, ratioText row.indexStates]

def toJson (row : CacheRow) : Json :=
  .object [("benchmark", .string row.benchmark),
    ("array_states_hit_rate", .number row.arrayStates),
    ("index_states_hit_rate", .number row.indexStates)]

end CacheRow

namespace CachesReport

/-- The cache report of some runs. -/
def of (profiles : List Profile) : Except ReportError CachesReport := do
  let rows ← (partition Profile.className profiles).mapM fun (benchmark, group) =>
    CacheRow.of benchmark group
  let all ← CacheRow.of allLabel profiles
  return ⟨rows, all⟩

def table (report : CachesReport) : Table where
  title := "Array cache hit rate"
  headings := ["Benchmark", "Array states", "Index states"]
  rows := (report.rows ++ [report.all]).map CacheRow.cells

def text (report : CachesReport) : String :=
  report.table.text

def toJson (report : CachesReport) : Json :=
  .object [("rows", .array (report.rows.map CacheRow.toJson)), ("all", report.all.toJson)]

end CachesReport

end DumpDigest
