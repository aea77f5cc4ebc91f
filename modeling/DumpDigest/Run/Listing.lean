import DumpDigest.Report.Document
import DumpDigest.Run.Outcome
import DumpDigest.Run.Validation

/-! # Listings

What the program says about itself: the option values that every report on profiles asks for, and
its versions.
-/

namespace DumpDigest

/-- The program's name. -/
def programName : String := "oshaprof"

/-- The program's version. -/
def programVersion : String := "0.1.0"

/-- A name filled up with blanks to the column of the filters. -/
def listedName (name : String) : String :=
  name ++ String.ofList (List.replicate (12 - name.length) ' ')

/-- The line for a report on profiles. -/
def Presets.line (presets : Presets) (report : ProfileReport) : String :=
  let filter := presets.resolve (.ofProfiles report)
  listedName report.name ++ " " ++
    if filter.isEmpty then "(every profile)" else filter.display

/-- What the command for listing presets does. -/
def listPresets (tree : FileTree) (config : Option Path) : Outcome :=
  let presets : Except Failure Presets :=
    match config with
    | some path => (Presets.load tree path).mapError (.presets path)
    | none => .ok .empty
  match presets with
  | .error failure => ⟨.error failure, "", [], tree⟩
  | .ok presets => ⟨.ok (), printedLines (ProfileReport.all.map presets.line), [], tree⟩

/-- The lines about the program's versions. -/
def versionLines : List String :=
  [programName ++ " v" ++ programVersion, "Report Schema: v" ++ schemaVersion, "",
    "Summaries of communication-checker profile and static-analysis dumps."]

/-- What the command for the versions does. -/
def showVersions (tree : FileTree) : Outcome :=
  ⟨.ok (), printedLines versionLines, [], tree⟩

end DumpDigest
