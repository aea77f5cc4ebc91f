import DumpDigest.OptionFilter

/-! # The kinds of reports

Eleven reports read profiles, four read static summaries. Each has a name on the command line and in
preset tables, a preset of options that a run has to show, and a rule for the names of files that it
opens at all.
-/

namespace DumpDigest

/-- The reports on profiles. -/
inductive ProfileReport where
  | threads
  | caches
  | walks
  | frequentStacks
  | checks
  | slowdown
  | memory
  | slowdownElementStates
  | memoryElementStates
  | communicatingStacks
  | precision
  deriving DecidableEq

/-- The reports on static summaries. -/
inductive StaticReport where
  | modules
  | annotations
  | inlining
  | conciseness
  deriving DecidableEq

/-- All reports. -/
inductive ReportKind where
  | ofProfiles (report : ProfileReport)
  | ofStatics (report : StaticReport)
  deriving DecidableEq

/-- Option values by key, in the order in which a preset lists them. -/
abbrev Preset := List (String × String)

namespace Preset

/-- Profiled and recorded runs. -/
def recorded : Preset := [("profile", "true"), ("record", "true")]

/-- Runs without any further tools, the options behind the flags for profiling and recording. -/
def plainRun (profile record : String) : Preset :=
  [("objectStates", "false"), ("profile", profile), ("arrayCacheSize", "16"),
    ("lockCacheSize", "4"), ("traces", "false"), ("record", record), ("create", "false"),
    ("instrumentFullJDK", "false"), ("bytecodeDump", "false"), ("verify", "false"),
    ("preVerify", "false"), ("frames", "false")]

/-- Profiled runs with the default caches. -/
def checks : Preset := plainRun "true" "true"

/-- Timing runs, which are neither profiled nor recorded, with any array states. -/
def elementTiming : Preset := plainRun "false" "false"

/-- Timing runs with one state per array. -/
def timing : Preset := ("arrayIndexStates", "false") :: elementTiming

/-- Profiled runs with one state per array. -/
def communicatingStacks : Preset := ("arrayIndexStates", "false") :: checks

/-- Recorded runs without profiling. -/
def precision : Preset := [("profile", "false"), ("traces", "false"), ("record", "true")]

end Preset

namespace ProfileReport

/-- The reports on profiles in the order in which they are listed. -/
def all : List ProfileReport :=
  [threads, caches, walks, frequentStacks, checks, slowdown, memory, slowdownElementStates,
    memoryElementStates, communicatingStacks, precision]

/-- The name of a report. -/
def name : ProfileReport → String
  | threads => "threads"
  | caches => "caches"
  | walks => "walks"
  | frequentStacks => "freq-stacks"
  | checks => "checks"
  | slowdown => "slowdown"
  | memory => "memory"
  | slowdownElementStates => "slowdown-element-states"
  | memoryElementStates => "memory-element-states"
  | communicatingStacks => "stacks"
  | precision => "precision"

/-- The options that a run has to show by default. -/
def preset : ProfileReport → Preset
  | threads => []
  | caches | walks | frequentStacks => .recorded
  | checks => .checks
  | slowdown | memory => .timing
  | slowdownElementStates | memoryElementStates => .elementTiming
  | communicatingStacks => .communicatingStacks
  | precision => .precision

end ProfileReport

namespace StaticReport

/-- The reports on static summaries in the order in which they are listed. -/
def all : List StaticReport := [modules, annotations, inlining, conciseness]

/-- The name of a report. -/
def name : StaticReport → String
  | modules => "modules"
  | annotations => "annotations"
  | inlining => "inlining"
  | conciseness => "conciseness"

end StaticReport

namespace ReportKind

/-- All reports in the order in which they are listed. -/
def all : List ReportKind :=
  ProfileReport.all.map ofProfiles ++ StaticReport.all.map ofStatics

/-- The name of a report. -/
def name : ReportKind → String
  | ofProfiles report => report.name
  | ofStatics report => report.name

/-- The report of a name. -/
def ofName? (name : String) : Option ReportKind :=
  all.find? (·.name == name)

/-- The options that a run has to show by default. -/
def preset : ReportKind → Preset
  | ofProfiles report => report.preset
  | ofStatics _ => []

/-- Whether a name is that of a warm-up run. -/
def isWarmup (baseName : String) : Bool :=
  "warmup.py".toList.isSuffixOf baseName.toList

/-- Whether a name is that of a Monte Carlo run. -/
def isMonteCarlo (baseName : String) : Bool :=
  "JGFMonteCarlo".toList.isPrefixOf baseName.toList

/-- Whether a report opens files of a base name. -/
def acceptsName (kind : ReportKind) (baseName : String) : Bool :=
  match kind with
  | ofProfiles .threads => true
  | ofProfiles .caches | ofProfiles .walks => !isWarmup baseName && !isMonteCarlo baseName
  | _ => !isWarmup baseName

end ReportKind

end DumpDigest
