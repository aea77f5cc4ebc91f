import DumpDigest.Distribution.Tally
import DumpDigest.Grouping
import DumpDigest.Profile.Benchmark
import DumpDigest.Profile.Counters

/-! # Aggregates over runs

Sums, extremes and ratios that reports take over groups of runs, and the two ways in which reports
split the runs of a benchmark.
-/

namespace DumpDigest

/-- The label of a row over all benchmarks. -/
def allLabel : String := "all"

/-- A quotient whose denominator must not be zero. -/
def ratio (numerator denominator : Float) (quantity : Quantity) : Except ReportError Float :=
  if denominator == 0.0 then .error (.zeroDenominator quantity)
  else .ok (numerator / denominator)

/-- The sum of machine integers, which wraps around. -/
def totalOf {α : Type} [Add α] [OfNat α 0] (numbers : List α) : α :=
  numbers.foldl (· + ·) 0

/-- The sum of two integers, or the bound of 64 bits that it is beyond. -/
def saturatingAdd (first second : Int64) : Int64 :=
  clampInt64 (first.toInt + second.toInt)

/-- A counter summed over runs, which stays at a bound of 64 bits that it reaches. -/
def sumOf (counter : Profile → Except FieldError Int64) (profiles : List Profile) :
    Except FieldError Int64 :=
  profiles.foldlM (fun sum profile => saturatingAdd sum <$> counter profile) 0

/-- The greatest value of a counter. -/
def greatestOf (counter : Profile → Except FieldError Int64) (group : RunGroup)
    (profiles : List Profile) : Except ReportError Int64 := do
  let values ← (profiles.mapM counter : Except FieldError _)
  match values.max? with
  | some value => return value
  | none => throw (.emptyGroup group)

/-- The least value of a counter. -/
def leastOf (counter : Profile → Except FieldError Int64) (group : RunGroup)
    (profiles : List Profile) : Except ReportError Int64 := do
  let values ← (profiles.mapM counter : Except FieldError _)
  match values.min? with
  | some value => return value
  | none => throw (.emptyGroup group)

/-- A measure summed over runs in order. -/
def measureOf (measure : Profile → Except FieldError Float) (profiles : List Profile) :
    Except FieldError Float :=
  profiles.foldlM (fun sum profile => (sum + ·) <$> measure profile) 0.0

/-- The filter for one option. -/
def wanting (key value : String) : OptionFilter :=
  .ofList [(key, value)]

/-- The runs with one state per array, and those with one per element. -/
def splitArrayStates (profiles : List Profile) : List Profile × List Profile :=
  bisect (·.shows (wanting "arrayIndexStates" "false")) profiles

/-- The instrumented runs, and the baseline runs without instrumentation. -/
def splitInstrumented (profiles : List Profile) : List Profile × List Profile :=
  bisect (·.shows (wanting "noInstrument" "false")) profiles

end DumpDigest
