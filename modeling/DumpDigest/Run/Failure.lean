import DumpDigest.Loading
import DumpDigest.Presets
import DumpDigest.Report.Error
import DumpDigest.Report.Output

/-! # Why a command fails

A failure says what was being done, and carries the error that ended it.
-/

namespace DumpDigest

/-- Why a command fails. -/
inductive Failure where
  | noFiles
  | assignment (error : AssignmentError)
  | filteredStatics (report : ReportKind)
  | emptyOutput
  | presets (path : Path) (error : ConfigError)
  | profiles (error : LoadError)
  | summaries (error : LoadError)
  | computation (report : ReportKind) (error : ReportError)
  | output (error : OutputError)
  | validation (path : Path) (error : LoadError)

/-- The messages of a failure and of what caused it, the most general one first. -/
def Failure.chain : Failure → List String
  | noFiles => ["At least one dump file is required"]
  | assignment error => [error.message]
  | filteredStatics report =>
    ["Report '" ++ report.name ++ "' reads static stats; option filters do not apply"]
  | emptyOutput => ["Output path cannot be empty"]
  | presets path (.unreadable config reason) =>
    ["Failed to load presets from " ++ path.text, (ConfigError.unreadable config reason).message,
      reason.message]
  | presets path .malformed =>
    ["Failed to load presets from " ++ path.text, ConfigError.malformed.message]
  | profiles error => "Failed to load profiles" :: error.chain
  | summaries error => "Failed to load static stats" :: error.chain
  | computation report error => ["Failed to compute " ++ report.name ++ " report", error.message]
  | output error => "Failed to write report JSON" :: error.chain
  | validation path error => ("Failed to validate " ++ path.text) :: error.chain

end DumpDigest
