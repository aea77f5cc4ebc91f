import DumpDigest.Files.Tree
import DumpDigest.Report.Kind
import DumpDigest.Toml.Parse

/-! # Configured presets

A configuration file may hold option values for every report, in tables below `presets` that bear
the reports' names. They stand over the values of the report's own preset; an option that a table
does not name keeps its value.
-/

namespace DumpDigest

/-- Configured option values by report name. -/
abbrev Presets := SortedMap String OptionFilter

/-- The option values that runs have to show for a report: its own preset, with the configured
values over it. -/
def Presets.resolve (presets : Presets) (report : ReportKind) : OptionFilter :=
  let preset : OptionFilter := .ofList report.preset
  match presets.find? report.name with
  | some configured => preset.extend configured.toList
  | none => preset

/-- Why presets cannot be taken from a file. -/
inductive ConfigError where
  | unreadable (path : Path) (reason : FileError)
  | malformed
  deriving DecidableEq

/-- The message of a configuration error. -/
def ConfigError.message : ConfigError → String
  | unreadable path reason => "Failed to read config " ++ path.text ++ ": " ++ reason.message
  | malformed => "Config TOML parse error"

/-- The only key of the table as which a date or a time counts. -/
def dateTimeKey : String := "$__toml_private_datetime"

/-- The option values in a value: those of a table of strings. -/
def configuredOptions? : Toml.Value → Option OptionFilter
  | .table _ fields => do
    let entries ← fields.toList.mapM fun (key, value) =>
      match value with
      | .string text => some (key, text)
      | _ => none
    return .ofList entries
  | .dateTime moment => some (.ofList [(dateTimeKey, moment.text)])
  | _ => none

/-- The presets in a configuration file's table; what else there is does not matter. -/
def Presets.ofTable? (table : Toml.Table) : Option Presets :=
  match table.find? "presets" with
  | none => some .empty
  | some (.table _ fields) => do
    let presets ← fields.toList.mapM fun (name, value) => (name, ·) <$> configuredOptions? value
    return .ofList presets
  | some _ => none

/-- The presets in a configuration file. -/
def Presets.load (tree : FileTree) (path : Path) : Except ConfigError Presets := do
  let text ← (tree.readText path).mapError (.unreadable path)
  match Toml.parse text >>= Presets.ofTable? with
  | some presets => return presets
  | none => throw .malformed

end DumpDigest
