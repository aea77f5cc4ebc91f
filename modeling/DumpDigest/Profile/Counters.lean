import DumpDigest.Profile.Basic
import DumpDigest.Report.Error

/-! # Counters of profiles

What the fields of a profile count. A field that is missing or of the wrong kind is an error: a
profile of another checker should stop a report and not count as zero. Rates are taken over all
checks, of which there must be some.
-/

namespace DumpDigest

namespace Profile

/-- An integer field. -/
def counter (key : String) (profile : Profile) : Except FieldError Int64 :=
  profile.record.int key

/-- The sum of integer fields, modulo `2 ^ 64`; the first field that cannot be read decides the
error. -/
def total (keys : List String) (profile : Profile) : Except FieldError Int64 :=
  keys.foldlM (fun sum key => (sum + ·) <$> profile.counter key) 0

/-- A number field. -/
def measure (key : String) (profile : Profile) : Except FieldError Float :=
  profile.record.number key

/-- A distribution field. -/
def histogram (key : String) (profile : Profile) : Except FieldError Distribution :=
  profile.record.distribution key

/-! ### Time and memory -/

def runtime : Profile → Except FieldError Float :=
  measure "Premain to fini time"

def instrumentationTime : Profile → Except FieldError Float :=
  measure "Instrumentation time"

def peakMemory : Profile → Except FieldError Float :=
  measure "Memory peak"

/-! ### Checks -/

/-- Field and array reads. -/
def reads : Profile → Except FieldError Int64 :=
  total ["All field reads", "All array reads"]

/-- Field and array reads that communicate. -/
def communicatingReads : Profile → Except FieldError Int64 :=
  total ["Communicating field reads", "Communicating array reads"]

/-- All checked operations. -/
def checks : Profile → Except FieldError Int64 :=
  total ["All field reads", "All array reads", "All acquires"]

/-- Checks that walked the whole stack. -/
def stackWalks : Profile → Except FieldError Int64 :=
  counter "Full stack walks"

/-- Communicating checks that missed the fast memo. -/
def slowCommunications : Profile → Except FieldError Int64 :=
  total
    ["Communicating field read slow path", "Communicating array read slow path",
      "Communicating acquire slow path"]

/-- Checks that found a communicating access. -/
def communications : Profile → Except FieldError Int64 :=
  total ["Communicating field reads", "Communicating array reads", "Communicating acquires"]

/-- Slow communications that did not need a stack walk. -/
def slowMemoHits (profile : Profile) : Except FieldError Int64 := do
  let slow ← profile.slowCommunications
  let walks ← profile.stackWalks
  return slow - walks

/-- Communications that hit the fast memo. -/
def fastMemoHits (profile : Profile) : Except FieldError Int64 := do
  let all ← profile.communications
  let slow ← profile.slowCommunications
  return all - slow

/-- Checks that found no communication. -/
def threadLocalHits (profile : Profile) : Except FieldError Int64 := do
  let all ← profile.checks
  let communicating ← profile.communications
  return all - communicating

/-! ### Rates -/

/-- A counter over all checks. -/
def rateOfChecks (name : String) (numerator : Profile → Except FieldError Int64)
    (profile : Profile) : Except ReportError Float := do
  let all ← profile.checks
  if all = 0 then
    throw (.zeroDenominator (.rate name profile.source))
  let part ← numerator profile
  return Float.ofInt part.toInt / Float.ofInt all.toInt

def threadLocalRate : Profile → Except ReportError Float :=
  rateOfChecks "thread-local rate" threadLocalHits

def communicationRate : Profile → Except ReportError Float :=
  rateOfChecks "communication rate" communications

def fastMemoHitRate : Profile → Except ReportError Float :=
  rateOfChecks "fast memo hit rate" fastMemoHits

def slowMemoHitRate : Profile → Except ReportError Float :=
  rateOfChecks "slow memo hit rate" slowMemoHits

def stackWalkRate : Profile → Except ReportError Float :=
  rateOfChecks "stack walk rate" stackWalks

/-! ### Stacks -/

/-- Depths in methods of the stacks that communicated. -/
def stackDepths : Profile → Except FieldError Distribution :=
  histogram "Communicating stack depths"

/-- Lengths in methods of stack segments. -/
def segmentLengths : Profile → Except FieldError Distribution :=
  histogram "Length in methods of stack segments"

/-- Segments of the stacks that communicated. -/
def segmentCounts : Profile → Except FieldError Distribution :=
  histogram "Segments on a communicating stack"

def frequentStacks : Profile → Except FieldError Int64 :=
  counter "frequently communicating stacks"

/-! ### Specifications -/

def communicatingModules : Profile → Except FieldError Int64 :=
  counter "Modules used"

def specifiedNodes : Profile → Except FieldError Int64 :=
  counter "Total comm nodes in used specs"

def specifiedEdges : Profile → Except FieldError Int64 :=
  counter "Total comm edges in used specs"

def runNodes : Profile → Except FieldError Int64 :=
  counter "Total comm nodes in run"

def runEdges : Profile → Except FieldError Int64 :=
  counter "Total comm edges in run"

/-! ### Threads and caches -/

def threads : Profile → Except FieldError Int64 :=
  counter "threads"

def arrayHits : Profile → Except FieldError Int64 :=
  counter "Array hits"

def arrayMisses : Profile → Except FieldError Int64 :=
  counter "Array misses"

end Profile

end DumpDigest
