import DumpDigest.Proofs.Literal.Termination
import DumpDigest.Proofs.Loading
import DumpDigest.Proofs.Report.Output
import DumpDigest.Run.Report

/-!
# Report runs are all or nothing

`Fails` lists the reasons for which the report of a request cannot be computed, and `Computes` says
what it is otherwise and on how many dumps.  Both are about the files and not about the run; that
the run agrees with them is `compute_eq_error_iff` and `compute_eq_ok_iff`.

`run_all_or_nothing` is the main result.  Nothing is printed and no file is touched before the
report is there, and what happens to its document afterwards is no matter to what is printed.
`Delivered` says what happens to it, with the places of the tree taken one by one by
`FileTree.writeDocument_changes`.
-/

namespace DumpDigest

open Result

/-! ### Results of logged computations -/

namespace Logged

variable {α β : Type}

theorem result_bind (first : Logged α) (next : α → Logged β) :
    (first >>= next).result = first.result >>= fun value => (next value).result := by
  show (first.andThen next).result = _
  rw [andThen]
  cases first.result <;> rfl

end Logged

namespace ReportRequest

/-! ### The report without the log -/

theorem computeProfiles_result (request : ReportRequest) (report : ProfileReport)
    (tree : FileTree) :
    (request.computeProfiles report tree).result = do
      let filter ← request.filter tree
      let loaded ← (tree.loadProfiles request.report.acceptsName (·.shows filter)
        request.files).mapError .profiles
      let rendered ← (report.render loaded.profiles).mapError (.computation request.report)
      return ⟨rendered, loaded.profiles.length⟩ := by
  rw [computeProfiles, Logged.result_bind]
  refine bind_congr fun filter => ?_
  rw [Logged.result_bind]
  refine bind_congr fun loaded => ?_
  by_cases none : loaded.profiles.isEmpty = true
  · simp only [none, if_true, Logged.result_bind]
    rfl
  · simp only [none, Bool.false_eq_true, if_false, Logged.result_bind]
    rfl

theorem computeStatics_result (request : ReportRequest) (report : StaticReport) (tree : FileTree) :
    (request.computeStatics report tree).result = do
      let summaries ← (tree.loadSummaries request.files).mapError .summaries
      let rendered ← (report.render summaries).mapError (.computation request.report)
      return ⟨rendered, summaries.length⟩ := by
  simp only [computeStatics, Logged.result_bind]
  rfl

theorem compute_result (request : ReportRequest) (tree : FileTree) :
    (request.compute tree).result = match request.report with
      | .ofProfiles report => (request.computeProfiles report tree).result
      | .ofStatics report => (request.computeStatics report tree).result := by
  rw [compute, Logged.result_bind]
  cases request.report <;> rfl

/-! ### Failing and computing -/

/-- Where the files of a request are profiles, those that its report opens. -/
def opened (request : ReportRequest) : List Path :=
  request.files.filter (request.report.acceptsName ·.baseName)

/-- Why the report of a request cannot be computed: the filter cannot be resolved, a dump cannot be
loaded, or the report refuses the dumps. -/
inductive Fails (request : ReportRequest) (tree : FileTree) : Failure → Prop
  | filter {report : ProfileReport} {failure : Failure} (kind : request.report = .ofProfiles report)
      (failed : request.filter tree = .error failure) : Fails request tree failure
  | profiles {report : ProfileReport} {filter : OptionFilter} {error : LoadError}
      (kind : request.report = .ofProfiles report) (filtered : request.filter tree = .ok filter)
      (refused : FirstRefusal tree profileForm request.opened error) :
      Fails request tree (.profiles error)
  | profileReport {report : ProfileReport} {filter : OptionFilter} {profiles : List Profile}
      {error : ReportError} (kind : request.report = .ofProfiles report)
      (filtered : request.filter tree = .ok filter)
      (loaded : List.Forall₂ (Loads tree profileForm) request.opened profiles)
      (refused : report.render (profiles.filter (·.shows filter)) = .error error) :
      Fails request tree (.computation request.report error)
  | summaries {report : StaticReport} {error : LoadError}
      (kind : request.report = .ofStatics report)
      (refused : FirstRefusal tree summaryForm request.files error) :
      Fails request tree (.summaries error)
  | staticReport {report : StaticReport} {summaries : List StaticStats} {error : ReportError}
      (kind : request.report = .ofStatics report)
      (loaded : List.Forall₂ (Loads tree summaryForm) request.files summaries)
      (refused : report.render summaries = .error error) :
      Fails request tree (.computation request.report error)

/-- What the report of a request is, and on how many dumps: of profiles those count that show the
options of the filter, of static summaries all. -/
inductive Computes (request : ReportRequest) (tree : FileTree) : Rendered → Nat → Prop
  | profiles {report : ProfileReport} {filter : OptionFilter} {profiles : List Profile}
      {rendered : Rendered} (kind : request.report = .ofProfiles report)
      (filtered : request.filter tree = .ok filter)
      (loaded : List.Forall₂ (Loads tree profileForm) request.opened profiles)
      (made : report.render (profiles.filter (·.shows filter)) = .ok rendered) :
      Computes request tree rendered (profiles.filter (·.shows filter)).length
  | statics {report : StaticReport} {summaries : List StaticStats} {rendered : Rendered}
      (kind : request.report = .ofStatics report)
      (loaded : List.Forall₂ (Loads tree summaryForm) request.files summaries)
      (made : report.render summaries = .ok rendered) :
      Computes request tree rendered request.files.length

/-- **A report cannot be computed for the reasons listed**, and for no others. -/
theorem compute_eq_error_iff {request : ReportRequest} {tree : FileTree} {failure : Failure} :
    (request.compute tree).result = .error failure ↔ Fails request tree failure := by
  rw [compute_result]
  cases kind : request.report with
  | ofProfiles report =>
    simp only [computeProfiles_result, bind_eq_error_iff, mapError_eq_error_iff, mapError_eq_ok_iff,
      FileTree.loadProfiles_eq_error_iff, FileTree.loadProfiles_eq_ok_iff]
    constructor
    · rintro (failed | ⟨filter, filtered, ⟨error, refused, rfl⟩ | ⟨_, ⟨profiles, loads, rfl⟩,
        ⟨error, refused, rfl⟩ | ⟨_, _, impossible⟩⟩⟩)
      · exact .filter kind failed
      · exact .profiles kind filtered refused
      · exact .profileReport kind filtered loads refused
      · cases impossible
    · intro fails
      cases fails with
      | filter _ failed => exact .inl failed
      | profiles _ filtered refused => exact .inr ⟨_, filtered, .inl ⟨_, refused, rfl⟩⟩
      | profileReport kind' filtered loads refused =>
        obtain rfl := ReportKind.ofProfiles.inj (kind.symm.trans kind')
        exact .inr ⟨_, filtered, .inr ⟨_, ⟨_, loads, rfl⟩, .inl ⟨_, refused, rfl⟩⟩⟩
      | summaries kind' => cases kind.symm.trans kind'
      | staticReport kind' => cases kind.symm.trans kind'
  | ofStatics report =>
    simp only [computeStatics_result, bind_eq_error_iff, mapError_eq_error_iff, mapError_eq_ok_iff,
      FileTree.loadSummaries_eq_error_iff, FileTree.loadSummaries_eq_ok_iff]
    constructor
    · rintro (⟨error, refused, rfl⟩ |
        ⟨summaries, loads, ⟨error, refused, rfl⟩ | ⟨_, _, impossible⟩⟩)
      · exact .summaries kind refused
      · exact .staticReport kind loads refused
      · cases impossible
    · intro fails
      cases fails with
      | filter kind' => cases kind.symm.trans kind'
      | profiles kind' => cases kind.symm.trans kind'
      | profileReport kind' => cases kind.symm.trans kind'
      | summaries _ refused => exact .inl ⟨_, refused, rfl⟩
      | staticReport kind' loads refused =>
        obtain rfl := ReportKind.ofStatics.inj (kind.symm.trans kind')
        exact .inr ⟨_, loads, .inl ⟨_, refused, rfl⟩⟩

/-- **A report is computed on the dumps that are left**, and on no others. -/
theorem compute_eq_ok_iff {request : ReportRequest} {tree : FileTree} {rendered : Rendered}
    {inputs : Nat} :
    (request.compute tree).result = .ok ⟨rendered, inputs⟩ ↔
      Computes request tree rendered inputs := by
  rw [compute_result]
  cases kind : request.report with
  | ofProfiles report =>
    simp only [computeProfiles_result, bind_eq_ok_iff, mapError_eq_ok_iff,
      FileTree.loadProfiles_eq_ok_iff]
    constructor
    · rintro ⟨filter, filtered, _, ⟨profiles, loads, rfl⟩, _, made, done⟩
      obtain ⟨rfl, rfl⟩ := ComputedReport.mk.inj (Except.ok.inj done)
      exact .profiles kind filtered loads made
    · intro computes
      cases computes with
      | profiles kind' filtered loads made =>
        obtain rfl := ReportKind.ofProfiles.inj (kind.symm.trans kind')
        exact ⟨_, filtered, _, ⟨_, loads, rfl⟩, _, made, rfl⟩
      | statics kind' => cases kind.symm.trans kind'
  | ofStatics report =>
    simp only [computeStatics_result, bind_eq_ok_iff, mapError_eq_ok_iff,
      FileTree.loadSummaries_eq_ok_iff]
    constructor
    · rintro ⟨summaries, loads, _, made, done⟩
      obtain ⟨rfl, rfl⟩ := ComputedReport.mk.inj (Except.ok.inj done)
      rw [← loads.length_eq]
      exact .statics kind loads made
    · intro computes
      cases computes with
      | profiles kind' => cases kind.symm.trans kind'
      | statics kind' loads made =>
        obtain rfl := ReportKind.ofStatics.inj (kind.symm.trans kind')
        refine ⟨_, loads, _, made, ?_⟩
        rw [← loads.length_eq]
        rfl

/-! ### Runs -/

/-- What becomes of a document that is to be written to a path: the run succeeds as the writing
does, nothing changes but what is missing on the way and the file, and in the file stands the
document as it is spelled. -/
structure Delivered (tree : FileTree) (path : Path) (document : Document) (outcome : Outcome) :
    Prop where
  succeeds : outcome.result = .ok () ↔ (tree.writeDocument path document).2 = .ok ()
  workingDirectory : outcome.tree.workingDirectory = tree.workingDirectory
  changes : ∃ written, (outcome.result ≠ .ok () → written = none) ∧
    ∀ place, tree.PlaceAfter outcome.tree path written place
  stored : outcome.result = .ok () → outcome.tree.readText path = .ok document.spelled

/-- How a run ends whose report is computed: the text is printed, without a path nothing is written,
and with a path the data are delivered with the number of dumps. -/
structure Reported (request : ReportRequest) (tree : FileTree) (now : String) (rendered : Rendered)
    (inputs : Nat) (outcome : Outcome) : Prop where
  printed : outcome.printed = rendered.text ++ "\n"
  unwritten : request.output = none → outcome.result = .ok () ∧ outcome.tree = tree
  delivered : ∀ path, request.output = some path →
    Delivered tree path ⟨request.report, inputs, now, rendered.data⟩ outcome

section

variable {request : ReportRequest} {tree : FileTree}

theorem run_of_error {failure : Failure} (failed : (request.compute tree).result = .error failure)
    (clock : Clock) :
    request.run tree clock = ⟨.error failure, "", (request.compute tree).log, tree⟩ := by
  simp only [run, failed]

variable {report : ComputedReport} {path : Path}

theorem run_printed (computed : (request.compute tree).result = .ok report) (clock : Clock) :
    (request.run tree clock).printed = report.rendered.text ++ "\n" := by
  simp only [run, computed]
  cases request.output with
  | none => rfl
  | some path =>
    dsimp only
    split <;> rfl

theorem run_of_no_output (computed : (request.compute tree).result = .ok report)
    (output : request.output = none) (clock : Clock) :
    (request.run tree clock).result = .ok () ∧ (request.run tree clock).tree = tree := by
  simp only [run, computed, output, and_self]

theorem run_of_output (computed : (request.compute tree).result = .ok report)
    (output : request.output = some path) (clock : Clock) :
    (request.run tree clock).result =
        (tree.writeDocument path (request.document report clock.now)).2.mapError .output ∧
      (request.run tree clock).tree =
        (tree.writeDocument path (request.document report clock.now)).1 := by
  simp only [run, computed, output]
  split
  · next attempt =>
    rw [attempt]
    exact ⟨rfl, rfl⟩
  · next attempt =>
    rw [attempt]
    exact ⟨rfl, rfl⟩

/-- **A document goes to its path or nowhere.** -/
theorem delivered_of_output (computed : (request.compute tree).result = .ok report)
    (output : request.output = some path) (clock : Clock) :
    Delivered tree path (request.document report clock.now) (request.run tree clock) := by
  obtain ⟨ends, leaves⟩ := run_of_output computed output clock
  obtain ⟨grows, changes⟩ := tree.writeDocument_changes path (request.document report clock.now)
  have succeeds : (request.run tree clock).result = .ok () ↔
      (tree.writeDocument path (request.document report clock.now)).2 = .ok () := by
    rw [ends, mapError_eq_ok_iff]
  constructor
  · exact succeeds
  · rw [leaves]
    exact grows.workingDirectory
  · rw [leaves]
    refine ⟨_, fun undone => ?_, changes⟩
    exact FileTree.writtenContent_eq_none fun done => undone (succeeds.mpr done)
  · intro done
    rw [leaves, FileTree.readText_of_writeDocument (succeeds.mp done), Document.text_eq_spelled]

end

/-- **A run is all or nothing.**  Either its report cannot be computed, and then it fails for that
reason, prints nothing and leaves the files alone; or its report is computed and printed, whatever
becomes of the document, and a document that is written names the number of dumps behind it. -/
theorem run_all_or_nothing (request : ReportRequest) (tree : FileTree) (clock : Clock) :
    ((∃ failure, Fails request tree failure) ∨
        ∃ rendered inputs, Computes request tree rendered inputs) ∧
      (∀ failure, Fails request tree failure →
        (request.run tree clock).result = .error failure ∧
          (request.run tree clock).printed = "" ∧ (request.run tree clock).tree = tree) ∧
      ∀ rendered inputs, Computes request tree rendered inputs →
        Reported request tree clock.now rendered inputs (request.run tree clock) := by
  refine ⟨?_, fun failure fails => ?_, fun rendered inputs computes => ?_⟩
  · cases result : (request.compute tree).result with
    | error failure => exact .inl ⟨failure, compute_eq_error_iff.mp result⟩
    | ok computed => exact .inr ⟨_, _, compute_eq_ok_iff.mp result⟩
  · rw [run_of_error (compute_eq_error_iff.mpr fails)]
    exact ⟨rfl, rfl, rfl⟩
  · have computed := compute_eq_ok_iff.mpr computes
    exact ⟨run_printed computed clock, fun output => run_of_no_output computed output clock,
      fun _ output => delivered_of_output computed output clock⟩

/-- The text of the dump of a recorded run, whose main class is left to the name of the file. -/
def dumpText (profiled frequent : String) : String :=
  "\x7b'options':\x7b'profile':'" ++ profiled ++ "','record':'true'\x7d," ++
    "'frequently communicating stacks':" ++ frequent ++ "\x7d"

/-- The record in it. -/
def dumpRecord (profiled : String) (frequent : Int64) : Record :=
  .ofList [("frequently communicating stacks", .int frequent),
    ("options", .record (SortedMap.ofList [("profile", .string profiled),
      ("record", .string "true")]))]

/-- Two dumps that count for a report, one that its filter drops, and one that it does not open. -/
def fourDumps : FileTree :=
  .ofTexts [("Counter-1.py", dumpText "true" "3"), ("Counter-2.py", dumpText "false" "9"),
    ("Counter-warmup.py", "?"), ("JGFCryptBenchSizeA-1.py", dumpText "true" "5")]

/-- A request for a report on files to a path in a directory that is not there. -/
def frequentRequest (files : List Path) : ReportRequest where
  report := .ofProfiles .frequentStacks
  files := files
  config := none
  assignments := []
  output := some ⟨"out/report.json"⟩

/-- The request for the report on the four dumps. -/
def fourFiles : ReportRequest :=
  frequentRequest [⟨"JGFCryptBenchSizeA-1.py"⟩, ⟨"Counter-warmup.py"⟩, ⟨"Counter-2.py"⟩,
    ⟨"Counter-1.py"⟩]

/-- The clock of a run of one and a half seconds. -/
def noon : Clock :=
  ⟨"2024-05-01T12:00:00+00:00", 1500000000⟩

/-- What is printed on the two dumps that count. -/
def frequentLines : List String :=
  ["  Frequently communicating call stacks", "  ┏━━━━━━━━━━━┳━━━━━━━━━━━━┓",
    "  ┃ Benchmark ┃ Max stacks ┃", "  ┣━━━━━━━━━━━╋━━━━━━━━━━━━┫", "  ┃ Counter   ┃          3 ┃",
    "  ┃ Crypt     ┃          5 ┃", "  ┃ all       ┃          5 ┃",
    "  ┗━━━━━━━━━━━┻━━━━━━━━━━━━┛", ""]

/-- The document on them. -/
def frequentDocument : List String :=
  ["\x7b", "  \"version\": \"1.0.0\",", "  \"report\": \"freq-stacks\",",
    "  \"generated_at\": \"2024-05-01T12:00:00+00:00\",", "  \"inputs\": 2,",
    "  \"data\": \x7b", "    \"rows\": [",
    "      \x7b", "        \"benchmark\": \"Counter\",", "        \"max_frequent_stacks\": 3",
    "      \x7d,",
    "      \x7b", "        \"benchmark\": \"Crypt\",", "        \"max_frequent_stacks\": 5",
    "      \x7d", "    ],",
    "    \"all\": \x7b", "      \"benchmark\": \"all\",", "      \"max_frequent_stacks\": 5",
    "    \x7d", "  \x7d", "\x7d"]

theorem parseRecord_dumpText :
    Literal.parseRecord (dumpText "true" "3") = .ok (dumpRecord "true" 3) ∧
      Literal.parseRecord (dumpText "false" "9") = .ok (dumpRecord "false" 9) ∧
      Literal.parseRecord (dumpText "true" "5") = .ok (dumpRecord "true" 5) := by
  have parsed := @Literal.parseRecord_of_scanDocument 99
  -- The loops are run on the texts, one step after the other.
  set_option maxRecDepth 4096 in
  exact ⟨parsed (by decide) rfl, parsed (by decide) rfl, parsed (by decide) rfl⟩

/-- Two of four dumps are reported, and a file that is missing beside them is refused. -/
theorem two_of_four_dumps_reported :
    ((fourFiles.run fourDumps noon).result = .ok () ∧
      (fourFiles.run fourDumps noon).printed = "\n".intercalate frequentLines ∧
      (fourFiles.run fourDumps noon).tree.readText ⟨"out/report.json"⟩ =
        .ok ("\n".intercalate frequentDocument)) ∧
    ((frequentRequest [⟨"Counter-1.py"⟩, ⟨"Counter-3.py"⟩]).run fourDumps noon).result =
      .error (.profiles (.unreadable ⟨"Counter-3.py"⟩ .notFound)) := by
  have loads : ∀ {path : Path} {text : String} {record : Record} {profile : Profile},
      fourDumps.read path = .ok text.toUTF8 → Literal.parseRecord text = .ok record →
      profileForm path record = .ok profile → Loads fourDumps profileForm path profile :=
    fun read parsed made => .mk (FileTree.readText_of_read read) parsed made
  obtain ⟨three, nine, five⟩ := parseRecord_dumpText
  have counter := @loads ⟨"Counter-1.py"⟩ _ _ _ rfl three rfl
  have crypt := @loads ⟨"JGFCryptBenchSizeA-1.py"⟩ _ _ _ rfl five rfl
  have dropped := @loads ⟨"Counter-2.py"⟩ _ _ _ rfl nine rfl
  obtain ⟨-, -, reported⟩ := run_all_or_nothing fourFiles fourDumps noon
  have computes := @Computes.profiles fourFiles fourDumps .frequentStacks _ _ _ rfl rfl
    (.cons crypt (.cons dropped (.cons counter .nil))) rfl
  obtain ⟨printed, -, delivered⟩ := reported _ _ computes
  have delivery := delivered ⟨"out/report.json"⟩ rfl
  have done := delivery.succeeds.mpr rfl
  refine ⟨⟨done, printed.trans (by decide +kernel),
    (delivery.stored done).trans (congrArg Except.ok (by decide +kernel))⟩, ?_⟩
  obtain ⟨-, failed, -⟩ := run_all_or_nothing
    (frequentRequest [⟨"Counter-1.py"⟩, ⟨"Counter-3.py"⟩]) fourDumps noon
  refine (failed _ (.profiles rfl rfl ⟨[⟨"Counter-1.py"⟩], _, [], rfl, ?_, .unreadable rfl⟩)).1
  exact List.forall_mem_singleton.mpr ⟨_, counter⟩

end ReportRequest

end DumpDigest
