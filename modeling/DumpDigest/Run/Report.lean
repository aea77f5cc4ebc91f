import DumpDigest.Report.Rendered
import DumpDigest.Run.Outcome

/-! # Report runs

A report run reads the dumps, computes the report, prints its text, and on demand writes its
document. All that can fail before the text is printed leaves the files alone.
-/

namespace DumpDigest

/-- What is asked of a report run: the report, the dumps, presets over the report's own, assignments
over all presets, and where to write the document. -/
structure ReportRequest where
  report : ReportKind
  files : List Path
  config : Option Path
  assignments : List String
  output : Option Path

namespace ReportRequest

/-- Refuses what cannot be meant. -/
def check (request : ReportRequest) : Except Failure Unit := do
  if request.files.isEmpty then throw .noFiles
  let assignments ← (request.assignments.mapM parseAssignment).mapError .assignment
  match request.report with
  | .ofStatics _ => if !assignments.isEmpty then throw (.filteredStatics request.report)
  | .ofProfiles _ => pure ()
  if request.output.any (·.text.isEmpty) then throw .emptyOutput

/-- The presets that a request names. -/
def presets (request : ReportRequest) (tree : FileTree) : Except Failure Presets :=
  match request.config with
  | some path => (Presets.load tree path).mapError (.presets path)
  | none => .ok .empty

/-- The option values that runs have to show: the report's preset, the configured values over it,
and the assignments in order over both. -/
def filter (request : ReportRequest) (tree : FileTree) : Except Failure OptionFilter := do
  let presets ← request.presets tree
  let assignments ← (request.assignments.mapM parseAssignment).mapError .assignment
  return (presets.resolve request.report).extend assignments

end ReportRequest

/-- A report that has been computed, and the number of dumps behind it. -/
structure ComputedReport where
  rendered : Rendered
  inputs : Nat

namespace ReportRequest

/-- The report on profiles that a request asks for. -/
def computeProfiles (request : ReportRequest) (report : ProfileReport) (tree : FileTree) :
    Logged ComputedReport := do
  let filter ← .ofExcept (request.filter tree)
  let loaded ← .ofExcept
    ((tree.loadProfiles request.report.acceptsName (·.shows filter) request.files).mapError
      .profiles)
  .note loaded.note
  if loaded.profiles.isEmpty then .note (.noneMatched request.report)
  let rendered ← .ofExcept
    ((report.render loaded.profiles).mapError (.computation request.report))
  return ⟨rendered, loaded.profiles.length⟩

/-- The report on static summaries that a request asks for. -/
def computeStatics (request : ReportRequest) (report : StaticReport) (tree : FileTree) :
    Logged ComputedReport := do
  let summaries ← .ofExcept ((tree.loadSummaries request.files).mapError .summaries)
  .note (.summariesLoaded summaries.length)
  let rendered ← .ofExcept ((report.render summaries).mapError (.computation request.report))
  return ⟨rendered, summaries.length⟩

/-- The report that a request asks for. -/
def compute (request : ReportRequest) (tree : FileTree) : Logged ComputedReport := do
  .note (.running request.report request.files.length)
  match request.report with
  | .ofProfiles report => request.computeProfiles report tree
  | .ofStatics report => request.computeStatics report tree

/-- The document of a computed report. -/
def document (request : ReportRequest) (computed : ComputedReport) (now : String) : Document :=
  ⟨request.report, computed.inputs, now, computed.rendered.data⟩

/-- What a run for a request does. -/
def run (request : ReportRequest) (tree : FileTree) (clock : Clock) : Outcome :=
  let computed := request.compute tree
  match computed.result with
  | .error failure => ⟨.error failure, "", computed.log, tree⟩
  | .ok report =>
    let printed := report.rendered.text ++ "\n"
    match request.output with
    | none => ⟨.ok (), printed, computed.log ++ [.finished request.report clock.elapsed], tree⟩
    | some path =>
      let log := computed.log ++ [.writing request.report path]
      match tree.writeDocument path (request.document report clock.now) with
      | (tree, .error error) => ⟨.error (.output error), printed, log, tree⟩
      | (tree, .ok ()) =>
        let finish := [.stored (tree.fileSize path), .written path,
          .finished request.report clock.elapsed]
        ⟨.ok (), printed, log ++ finish, tree⟩

/-- What a command for a request does: a run, unless the request is refused. -/
def execute (request : ReportRequest) (tree : FileTree) (clock : Clock) : Outcome :=
  match request.check with
  | .error failure => ⟨.error failure, "", [], tree⟩
  | .ok () => request.run tree clock

end ReportRequest

end DumpDigest
