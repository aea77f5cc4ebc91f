import DumpDigest.Json.Print
import DumpDigest.Report.Kind

/-! # Report documents

The JSON form of a report: its data in an envelope with the version of the form, the report's name,
the time at which it was made, and the number of dumps behind it.
-/

namespace DumpDigest

/-- The version of the JSON form. -/
def schemaVersion : String := "1.0.0"

/-- A report's data with its envelope. -/
structure Document where
  report : ReportKind
  inputs : Nat
  generatedAt : String
  data : Json

namespace Document

def toJson (document : Document) : Json :=
  .object [("version", .string schemaVersion), ("report", .string document.report.name),
    ("generated_at", .string document.generatedAt), ("inputs", .integer document.inputs),
    ("data", document.data)]

/-- The text of a document. -/
def text (document : Document) : String :=
  document.toJson.pretty

end Document

end DumpDigest
