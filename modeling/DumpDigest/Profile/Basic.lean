import DumpDigest.Files.Path
import DumpDigest.OptionFilter
import DumpDigest.Value.Display
import DumpDigest.Value.Field

/-! # Profiles

A profile is the dump of one benchmark run: counters, histograms, and the options of the run. Its
options always name the main class; where a dump leaves it out, the file's base name supplies it.
-/

namespace DumpDigest

/-- Why a record is no profile. -/
inductive ShapeError where
  | missingOptions
  | optionsNotRecord (found : Value.Kind)
  | mainClassNotString (found : Value.Kind)
  deriving DecidableEq

/-- The message of a shape error. -/
def ShapeError.message : ShapeError → String
  | missingOptions => "missing 'options' mapping"
  | optionsNotRecord found => "'options' is " ++ found.name ++ ", expected record"
  | mainClassNotString found => "'options.mainClass' is " ++ found.name ++ ", expected string"

/-- The record of a run, its options, and the main class, which stands both in the options and in
the record. -/
structure Profile where
  record : Record
  options : Record
  mainClass : String
  source : Path

/-- The text before the first hyphen. -/
def beforeHyphen (text : String) : String :=
  String.ofList (text.toList.takeWhile (· ≠ '-'))

namespace Profile

/-- The profile in a record: its options completed with the main class, and the main class copied
to the top. -/
def ofRecord (record : Record) (source : Path) (baseName : String) :
    Except ShapeError Profile := do
  let given ←
    match record.find? "options" with
    | some (.record options) => pure options
    | some other => throw (.optionsNotRecord other.kind)
    | none => throw .missingOptions
  let mainClass ←
    match given.find? "mainClass" with
    | some (.string name) => pure name
    | some other => throw (.mainClassNotString other.kind)
    | none => pure (beforeHyphen baseName)
  let options : Record := SortedMap.insert given "mainClass" (.string mainClass)
  let record := (record.insert "options" (.record options)).insert "mainClass" (.string mainClass)
  return ⟨record, options, mainClass, source⟩

/-- The value of an option that is a string. -/
def option? (profile : Profile) (key : String) : Option String :=
  (profile.options.find? key).bind Value.asString?

/-- All options as text, which is what runs of one configuration share. -/
def configuration (profile : Profile) : OptionFilter :=
  .ofList (profile.options.toList.map fun (key, value) => (key, value.display))

/-- Whether a run shows the options that a filter wants. -/
def shows (profile : Profile) (filter : OptionFilter) : Bool :=
  filter.accepts profile.options

end Profile

end DumpDigest
