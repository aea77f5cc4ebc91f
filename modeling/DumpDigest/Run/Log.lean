import DumpDigest.Decimal.Fixed
import DumpDigest.Loading
import DumpDigest.Report.Kind

/-! # The log of a run -/

namespace DumpDigest

/-- How much a message matters. -/
inductive LogLevel where
  | info
  | warning
  deriving DecidableEq

/-- What a run notes on its way. -/
inductive LogEntry where
  | running (report : ReportKind) (files : Nat)
  | profilesLoaded (kept skipped dropped : Nat)
  | noneMatched (report : ReportKind)
  | summariesLoaded (count : Nat)
  | writing (report : ReportKind) (path : Path)
  | stored (bytes : Nat)
  | written (path : Path)
  | finished (report : ReportKind) (nanoseconds : Nat)
  deriving DecidableEq

/-- Nanoseconds in seconds. -/
def secondsOf (nanoseconds : Nat) : Float :=
  Float.ofNat (nanoseconds / 1000000000) + Float.ofNat (nanoseconds % 1000000000) / 1000000000.0

namespace LogEntry

/-- How much an entry matters. -/
def level : LogEntry → LogLevel
  | noneMatched _ => .warning
  | _ => .info

/-- The message of an entry. -/
def message : LogEntry → String
  | running report files =>
    "Running " ++ report.name ++ " report over " ++ files.repr ++ " file(s)"
  | profilesLoaded kept skipped dropped =>
    "Loaded " ++ kept.repr ++ " profile(s), skipped " ++ skipped.repr ++ " by name, filtered " ++
      dropped.repr ++ " by options"
  | noneMatched report => "No profile matched the " ++ report.name ++ " filters"
  | summariesLoaded count => "Loaded " ++ count.repr ++ " static summaries"
  | writing report path => "Writing " ++ report.name ++ " report to: " ++ path.text
  | stored bytes => "Report written successfully (" ++ bytes.repr ++ " bytes)"
  | written path => "✓ Report written to: " ++ path.text
  | finished report nanoseconds =>
    "✓ " ++ report.name ++ " report finished in " ++ Decimal.fixed 2 (secondsOf nanoseconds) ++ "s"

/-- The word for the level of an entry. -/
def levelName (entry : LogEntry) : String :=
  match entry.level with
  | .info => "INFO"
  | .warning => "WARN"

/-- The line of an entry. -/
def text (entry : LogEntry) : String :=
  entry.levelName ++ ": " ++ entry.message

end LogEntry

/-- What loading some profiles notes. -/
def LoadedProfiles.note (loaded : LoadedProfiles) : LogEntry :=
  .profilesLoaded loaded.profiles.length loaded.skipped loaded.dropped

end DumpDigest
