import DumpDigest.Proofs.CommandLine.Environment
import DumpDigest.Proofs.Loading
import DumpDigest.Proofs.OptionFilter.Assignment
import DumpDigest.Proofs.Report.Writing
import DumpDigest.Proofs.Run.Report

/-!
# Reports on static summaries and presets

Presets and assignments select runs, and a report on static summaries has none to select from.  The
two are treated differently.  Presets may come from the environment, where they are meant for other
reports, so they are left alone: they are not even looked at, and whatever is in their file is no
matter (`run_withConfig`).  Assignments are given for this report, so they are refused before
anything is read; `check_eq_error_iff` lists that among the reasons for which requests are refused.

What a run has from the clock stands in its document and in two entries of its log, how many bytes
were stored and how long the run took.  Runs at different times are alike in all else
(`AlikeButForClock`).

`statics_ignore_presets` is the main result.
-/

namespace DumpDigest.ReportRequest

open Result

variable {request : ReportRequest} {report : StaticReport}

/-! ### Requests that are refused -/

/-- Why a request is refused: it names no files, an assignment assigns nothing, there are
assignments for a report on static summaries, or the path of the document is empty; the first of
these is told. -/
inductive Refused (request : ReportRequest) : Failure → Prop
  | noFiles (none : request.files = []) : Refused request .noFiles
  | assignment {before after : List String} {text : String} (files : request.files ≠ [])
      (split : request.assignments = before ++ text :: after)
      (fine : ∀ earlier ∈ before, ¬ AssignsNothing earlier) (refused : AssignsNothing text) :
      Refused request (.assignment ⟨text⟩)
  | statics {report : StaticReport} (files : request.files ≠ [])
      (fine : ∀ text ∈ request.assignments, ¬ AssignsNothing text)
      (kind : request.report = .ofStatics report) (assigned : request.assignments ≠ []) :
      Refused request (.filteredStatics request.report)
  | output {path : Path} (files : request.files ≠ [])
      (fine : ∀ text ∈ request.assignments, ¬ AssignsNothing text)
      (unassigned : ∀ report, request.report = .ofStatics report → request.assignments = [])
      (named : request.output = some path) (empty : path.text = "") :
      Refused request .emptyOutput

theorem check_of_noFiles (none : request.files = []) : request.check = .error .noFiles := by
  rw [check, none]
  rfl

theorem isEmpty_of_parsed {texts : List String} {pairs : List (String × String)}
    (parsed : texts.mapM parseAssignment = .ok pairs) : pairs.isEmpty = texts.isEmpty := by
  have same := (mapM_eq_ok_iff.mp parsed).length_eq
  rw [Bool.eq_iff_iff, List.isEmpty_iff_length_eq_zero, List.isEmpty_iff_length_eq_zero, same]

section

variable {pairs : List (String × String)} (files : request.files ≠ [])
include files

theorem check_of_refused {error : AssignmentError}
    (refused : request.assignments.mapM parseAssignment = .error error) :
    request.check = .error (.assignment error) := by
  rw [check, if_neg (List.isEmpty_iff.not.mpr files), refused]
  rfl

theorem check_of_statics (parsed : request.assignments.mapM parseAssignment = .ok pairs)
    (kind : request.report = .ofStatics report) (assigned : request.assignments ≠ []) :
    request.check = .error (.filteredStatics request.report) := by
  have some : (!pairs.isEmpty) = true := by simpa [isEmpty_of_parsed parsed] using assigned
  simp only [check, if_neg (List.isEmpty_iff.not.mpr files), parsed, kind]
  exact if_pos some

theorem check_of_parsed (parsed : request.assignments.mapM parseAssignment = .ok pairs)
    (applies : ∀ report, request.report = .ofStatics report → request.assignments = []) :
    request.check =
      if request.output.any (·.text.isEmpty) = true then .error .emptyOutput else .ok () := by
  simp only [check, if_neg (List.isEmpty_iff.not.mpr files), parsed]
  cases kind : request.report with
  | ofProfiles report => rfl
  | ofStatics report =>
    have none : ¬ (!pairs.isEmpty) = true := by
      simp [isEmpty_of_parsed parsed, applies report kind]
    exact if_neg none

end

theorem parsed_of_assigns (fine : ∀ text ∈ request.assignments, ¬ AssignsNothing text) :
    ∃ pairs, request.assignments.mapM parseAssignment = .ok pairs := by
  refine exists_mapM_eq_ok_iff.mpr fun text member => ?_
  simp only [parseAssignment_eq_ok_iff]
  exact exists_assigns_iff.mpr (fine text member)

/-- **A request is refused for the reasons listed**, and for no others. -/
theorem check_eq_error_iff {failure : Failure} :
    request.check = .error failure ↔ Refused request failure := by
  constructor
  · intro failed
    by_cases files : request.files = []
    · rw [check_of_noFiles files] at failed
      cases failed
      exact .noFiles files
    cases parsed : request.assignments.mapM parseAssignment with
    | error error =>
      rw [check_of_refused files parsed] at failed
      cases failed
      obtain ⟨before, text, after, split, fine, refused⟩ := mapM_eq_error_iff.mp parsed
      simp only [parseAssignment_eq_ok_iff, exists_assigns_iff] at fine
      obtain ⟨nothing, rfl⟩ := parseAssignment_eq_error_iff.mp refused
      exact .assignment files split fine nothing
    | ok pairs =>
      have fine := exists_mapM_eq_ok_iff.mp ⟨pairs, parsed⟩
      simp only [parseAssignment_eq_ok_iff, exists_assigns_iff] at fine
      by_cases applies : ∀ report, request.report = .ofStatics report → request.assignments = []
      · rw [check_of_parsed files parsed applies] at failed
        split at failed
        · next empty =>
          cases failed
          obtain ⟨path, named, empty⟩ := (Option.any_eq_true _ _).mp empty
          exact .output files fine applies named (String.isEmpty_iff.mp empty)
        · cases failed
      · push Not at applies
        obtain ⟨report, kind, assigned⟩ := applies
        rw [check_of_statics files parsed kind assigned] at failed
        cases failed
        exact .statics files fine kind assigned
  · intro refused
    cases refused with
    | noFiles none => exact check_of_noFiles none
    | assignment files split fine refused =>
      refine check_of_refused files (mapM_eq_error_iff.mpr ⟨_, _, _, split, ?_, ?_⟩)
      · simpa only [parseAssignment_eq_ok_iff, exists_assigns_iff] using fine
      · exact parseAssignment_eq_error_iff.mpr ⟨refused, rfl⟩
    | statics files fine kind assigned =>
      obtain ⟨pairs, parsed⟩ := parsed_of_assigns fine
      exact check_of_statics files parsed kind assigned
    | output files fine unassigned named empty =>
      obtain ⟨pairs, parsed⟩ := parsed_of_assigns fine
      rw [check_of_parsed files parsed unassigned, named]
      exact if_pos (String.isEmpty_iff.mpr empty)

/-! ### Requests that differ in presets -/

/-- The request with other presets. -/
def withConfig (request : ReportRequest) (config : Option Path) : ReportRequest :=
  { request with config := config }

theorem check_withConfig (request : ReportRequest) (config : Option Path) :
    (request.withConfig config).check = request.check :=
  rfl

theorem compute_of_statics (kind : request.report = .ofStatics report) (tree : FileTree) :
    request.compute tree =
      (Logged.note (.running request.report request.files.length) >>= fun _ =>
        request.computeStatics report tree) := by
  rw [compute, kind]

theorem compute_withConfig (kind : request.report = .ofStatics report) (config : Option Path)
    (tree : FileTree) : (request.withConfig config).compute tree = request.compute tree := by
  have kind' : (request.withConfig config).report = .ofStatics report := kind
  rw [compute_of_statics kind, compute_of_statics kind']
  rfl

/-- **A report on static summaries does not look at presets.** -/
theorem run_withConfig (kind : request.report = .ofStatics report) (config : Option Path)
    (tree : FileTree) (clock : Clock) :
    (request.withConfig config).run tree clock = request.run tree clock := by
  simp only [run, compute_withConfig kind]
  rfl

theorem execute_withConfig (kind : request.report = .ofStatics report) (config : Option Path)
    (tree : FileTree) (clock : Clock) :
    (request.withConfig config).execute tree clock = request.execute tree clock := by
  rw [execute, execute, check_withConfig, run_withConfig kind]

/-- **Nor does it look at any other file** than its dumps before it is computed. -/
theorem compute_congr (kind : request.report = .ofStatics report) {first second : FileTree}
    (agree : ∀ path ∈ request.files, first.read path = second.read path) :
    request.compute first = request.compute second := by
  rw [compute_of_statics kind, compute_of_statics kind, computeStatics, computeStatics,
    (loadsExactly_loadSummaries request.files).agree first second agree]

/-- The same words do the same in two environments, if they ask for such a report in both. -/
theorem run_environment (kind : request.report = .ofStatics report)
    {environment environment' : Option String} {words : List String} {other : ReportRequest}
    (parsed : CommandLine.parse environment words = .ok (.report request))
    (parsed' : CommandLine.parse environment' words = .ok (.report other)) (tree : FileTree)
    (clock : Clock) :
    CommandLine.run environment words tree clock =
      CommandLine.run environment' words tree clock := by
  have differ : other = request.withConfig other.config :=
    CommandLine.report_of_parse parsed parsed'
  rw [CommandLine.run, CommandLine.run, parsed, parsed']
  dsimp only [CommandLine.Invocation.execute]
  rw [differ, execute_withConfig kind]

/-! ### Requests at different times -/

/-- An entry of the log without what it has from the clock. -/
def timeless : LogEntry → LogEntry
  | .stored _ => .stored 0
  | .finished report _ => .finished report 0
  | entry => entry

/-- Whether two trees are the same, but for a document that each has in the same place, and that
says the same but for the moment at which it was made. -/
inductive SameButForMoment (first second : String) : FileTree → FileTree → Prop
  | same (tree : FileTree) : SameButForMoment first second tree tree
  | document (tree : FileTree) (place : Location) (report : ReportKind) (inputs : Nat)
      (data : Json) : SameButForMoment first second
        (tree.put place (.file (Document.text ⟨report, inputs, first, data⟩).toUTF8))
        (tree.put place (.file (Document.text ⟨report, inputs, second, data⟩).toUTF8))

/-- Whether runs at two times end, print and log the same and leave the same files, but for what
they have from the clock. -/
structure AlikeButForClock (clock other : Clock) (first second : Outcome) : Prop where
  result : first.result = second.result
  printed : first.printed = second.printed
  log : first.log.map timeless = second.log.map timeless
  tree : SameButForMoment clock.now other.now first.tree second.tree

section

variable {clock other : Clock}

theorem AlikeButForClock.refl (outcome : Outcome) : AlikeButForClock clock other outcome outcome :=
  ⟨rfl, rfl, rfl, .same _⟩

theorem run_clock (request : ReportRequest) (tree : FileTree) :
    AlikeButForClock clock other (request.run tree clock) (request.run tree other) := by
  simp only [run]
  cases (request.compute tree).result with
  | error failure => exact .refl _
  | ok report =>
    dsimp only
    cases request.output with
    | none => exact ⟨rfl, rfl, by simp [timeless], .same _⟩
    | some path =>
      dsimp only
      obtain same | ⟨made, place, wrote, wrote'⟩ := tree.writeDocument_congr path
        (request.document report clock.now) (request.document report other.now)
      · rw [same]
        split
        · exact .refl _
        · exact ⟨rfl, rfl, by simp [timeless], .same _⟩
      · rw [wrote, wrote']
        exact ⟨rfl, rfl, by simp [timeless], .document _ _ _ _ _⟩

/-- **The time of a run does not matter** but for what it has from the clock. -/
theorem execute_clock (request : ReportRequest) (tree : FileTree) :
    AlikeButForClock clock other (request.execute tree clock) (request.execute tree other) := by
  rw [execute, execute]
  cases request.check with
  | error failure => exact .refl _
  | ok => exact run_clock request tree

end

/-! ### Assignments -/

/-- **Assignments for a report on static summaries are refused** before anything is read. -/
theorem refused_of_assignments (kind : request.report = .ofStatics report)
    (assigned : request.assignments ≠ []) : ∃ failure, request.check = .error failure := by
  by_cases files : request.files = []
  · exact ⟨_, check_of_noFiles files⟩
  · cases parsed : request.assignments.mapM parseAssignment with
    | error error => exact ⟨_, check_of_refused files parsed⟩
    | ok pairs => exact ⟨_, check_of_statics files parsed kind assigned⟩

/-- **Presets are no matter to a report on static summaries**: requests that differ in them only are
accepted or refused alike, and their runs do the same at the same time, whatever the files hold, and
are alike but for the clock at different times.  The command line does the same in two environments,
and of the files only the dumps count.  Assignments are refused for one of the reasons listed,
whatever the files are, which are left alone. -/
theorem statics_ignore_presets (kind : request.report = .ofStatics report) :
    (∀ config, (request.withConfig config).check = request.check ∧
      ∀ tree clock, (request.withConfig config).run tree clock = request.run tree clock ∧
        (request.withConfig config).execute tree clock = request.execute tree clock ∧
        ∀ other, AlikeButForClock clock other ((request.withConfig config).execute tree clock)
          (request.execute tree other)) ∧
    (∀ first second : FileTree, (∀ path ∈ request.files, first.read path = second.read path) →
      request.compute first = request.compute second) ∧
    (∀ environment environment' words other,
      CommandLine.parse environment words = .ok (.report request) →
      CommandLine.parse environment' words = .ok (.report other) → ∀ tree clock,
        CommandLine.run environment words tree clock =
          CommandLine.run environment' words tree clock) ∧
    (request.assignments ≠ [] → ∃ failure, Refused request failure ∧
      request.check = .error failure ∧
        ∀ tree clock, request.execute tree clock = ⟨.error failure, "", [], tree⟩) := by
  refine ⟨fun config => ⟨check_withConfig request config, fun tree clock => ?_⟩,
    fun _ _ => compute_congr kind, fun _ _ _ _ => run_environment kind, fun assigned => ?_⟩
  · refine ⟨run_withConfig kind config tree clock, execute_withConfig kind config tree clock, ?_⟩
    intro other
    rw [execute_withConfig kind]
    exact execute_clock request tree
  · obtain ⟨failure, refused⟩ := refused_of_assignments kind assigned
    refine ⟨failure, check_eq_error_iff.mp refused, refused, fun tree clock => ?_⟩
    rw [execute, refused]

/-- A tree with a summary in the file `a`, of whose four methods three are inlined. -/
def inlinedFile : FileTree :=
  .ofTexts [("a", "\x7b'Inlined methods':\x7b3:1\x7d,'Total methods':\x7b4:1\x7d\x7d")]

/-- The same tree with a file `b` that is no text. -/
def inlinedAndGarbage : FileTree :=
  inlinedFile.put ["b"] (.file ⟨#[0xff]⟩)

/-- A request for a report on the summary in the file `a` to a path in a directory that is not
there. -/
def inliningOf (assignments : List String) : ReportRequest where
  report := .ofStatics .inlining
  files := [⟨"a"⟩]
  config := none
  assignments := assignments
  output := some ⟨"out/report.json"⟩

/-- The words for the request without assignments. -/
def inliningWords : List String :=
  ["inlining", "a", "--output", "out/report.json"]

/-- What a run for it notes that takes one and a half seconds. -/
def inliningMessages : List String :=
  ["Running inlining report over 1 file(s)", "Loaded 1 static summaries",
    "Writing inlining report to: out/report.json", "Report written successfully (265 bytes)",
    "✓ Report written to: out/report.json", "✓ inlining report finished in 1.50s"]

/-- The clock of a run that takes no time. -/
def midnight : Clock :=
  ⟨"2024-05-02T00:00:00+00:00", 0⟩

/-- Presets in a file that is no text are no matter, also if they come from the environment. -/
theorem garbage_presets_ignored :
    (∃ error, Presets.load inlinedAndGarbage ⟨"b"⟩ = .error error) ∧
    (∃ outcome, ((inliningOf []).withConfig (some ⟨"b"⟩)).execute inlinedAndGarbage noon = outcome ∧
      (inliningOf []).execute inlinedAndGarbage noon = outcome ∧ outcome.result = .ok () ∧
      outcome.log.map LogEntry.message = inliningMessages) ∧
    AlikeButForClock noon midnight
      (((inliningOf []).withConfig (some ⟨"b"⟩)).execute inlinedAndGarbage noon)
      ((inliningOf []).execute inlinedAndGarbage midnight) ∧
    (inliningOf []).compute inlinedAndGarbage = (inliningOf []).compute inlinedFile ∧
    CommandLine.run none inliningWords inlinedAndGarbage noon =
      CommandLine.run (some "b") inliningWords inlinedAndGarbage noon ∧
    ∃ failure, Refused (inliningOf ["profile=true"]) failure ∧
      (inliningOf ["profile=true"]).execute inlinedAndGarbage noon =
        ⟨.error failure, "", [], inlinedAndGarbage⟩ := by
  obtain ⟨config, dumps, environment, -⟩ := @statics_ignore_presets (inliningOf []) _ rfl
  obtain ⟨-, -, -, assignments⟩ := @statics_ignore_presets (inliningOf ["profile=true"]) _ rfl
  obtain ⟨-, same, alike⟩ := (config (some ⟨"b"⟩)).2 inlinedAndGarbage noon
  have succeeds : ((inliningOf []).execute inlinedAndGarbage noon).result.toOption = some () := by
    decide +kernel
  have messages : ((inliningOf []).execute inlinedAndGarbage noon).log.map LogEntry.message =
      inliningMessages := by decide +kernel
  refine ⟨⟨_, rfl⟩, ⟨_, same, rfl, toOption_eq_some_iff.mp succeeds, messages⟩, alike midnight,
    ?_, ?_, ?_⟩
  · exact dumps _ _ (List.forall_mem_singleton.mpr rfl)
  · exact environment none (some "b") _ ((inliningOf []).withConfig (some ⟨"b"⟩)) rfl rfl _ _
  · obtain ⟨failure, refused, -, leaves⟩ := assignments (List.cons_ne_nil _ _)
    exact ⟨failure, refused, leaves _ _⟩

end DumpDigest.ReportRequest
