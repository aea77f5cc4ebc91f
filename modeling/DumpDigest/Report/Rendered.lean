import DumpDigest.Report.Annotations
import DumpDigest.Report.Caches
import DumpDigest.Report.Checks
import DumpDigest.Report.FrequentStacks
import DumpDigest.Report.Inlining
import DumpDigest.Report.Kind
import DumpDigest.Report.Modules
import DumpDigest.Report.Overhead
import DumpDigest.Report.Precision
import DumpDigest.Report.Stacks
import DumpDigest.Report.Threads
import DumpDigest.Report.Walks

/-! # Rendered reports

Every kind of report comes out as a text and as JSON data.
-/

namespace DumpDigest

/-- A report as text and as data. -/
structure Rendered where
  text : String
  data : Json

/-- The report of a kind on some profiles. -/
def ProfileReport.render (report : ProfileReport) (profiles : List Profile) :
    Except ReportError Rendered :=
  match report with
  | threads => (fun r => ⟨r.text, r.toJson⟩) <$> ThreadsReport.of profiles
  | caches => (fun r => ⟨r.text, r.toJson⟩) <$> CachesReport.of profiles
  | walks => (fun r => ⟨r.text, r.toJson⟩) <$> WalksReport.of profiles
  | frequentStacks => (fun r => ⟨r.text, r.toJson⟩) <$> FrequentStacksReport.of profiles
  | checks => (fun r => ⟨r.text, r.toJson⟩) <$> ChecksReport.of profiles
  | slowdown => (fun r => ⟨r.text, r.toJson⟩) <$> SlowdownReport.of profiles
  | memory => (fun r => ⟨r.text, r.toJson⟩) <$> MemoryReport.of profiles
  | slowdownElementStates =>
    (fun r => ⟨r.text, r.toJson⟩) <$> ElementStatesReport.of .runtime profiles
  | memoryElementStates =>
    (fun r => ⟨r.text, r.toJson⟩) <$> ElementStatesReport.of .peakMemory profiles
  | communicatingStacks => (fun r => ⟨r.text, r.toJson⟩) <$> StacksReport.of profiles
  | precision => (fun r => ⟨r.text, r.toJson⟩) <$> PrecisionReport.of profiles

/-- The report of a kind on some static summaries. -/
def StaticReport.render (report : StaticReport) (summaries : List StaticStats) :
    Except ReportError Rendered :=
  match report with
  | modules => (fun r => ⟨r.text, r.toJson⟩) <$> ModulesReport.of summaries
  | annotations => (fun r => ⟨r.text, r.toJson⟩) <$> AnnotationsReport.of summaries
  | inlining => (fun r => ⟨r.text, r.toJson⟩) <$> InliningReport.of summaries
  | conciseness => (fun r => ⟨r.text, r.toJson⟩) <$> ConcisenessReport.of summaries

end DumpDigest
