import DumpDigest.Proofs.Loading
import DumpDigest.Proofs.OptionFilter.Assignment
import DumpDigest.Proofs.OptionFilter.Matching
import DumpDigest.Proofs.Result
import DumpDigest.Run.Listing
import DumpDigest.Run.Report

/-!
# The options that a request asks for

Three layers of option values stand over one another: the preset of the report, the configured table
of the report, and the assignments of the request in order.  `layered` says what they say about an
option, as a look-up in each layer and not as a map that is built; `find?_extend_resolve` is the
step from the map to it, and `filter_last_layer` the main result.

The listing of presets goes its own way to the first two layers.  That it tells the same filter is
`tells_of_presets`.
-/

namespace DumpDigest

open Result

/-! ### Layers -/

theorem ReportKind.nodup_preset (report : ReportKind) : (report.preset.map (·.1)).Nodup := by
  cases report with
  | ofProfiles report => cases report <;> decide
  | ofStatics report => exact List.nodup_nil

/-- Where no key is repeated it does not matter from which end a list is searched. -/
theorem lookup_reverse {ν : Type} {entries : List (String × ν)}
    (distinct : (entries.map (·.1)).Nodup) (key : String) :
    entries.reverse.lookup key = entries.lookup key := by
  induction entries with
  | nil => rfl
  | cons entry entries ih =>
    obtain ⟨absent, distinct⟩ := List.nodup_cons.mp distinct
    rw [List.reverse_cons, List.lookup_append, ih distinct, List.lookup_cons, List.lookup_cons,
      List.lookup_nil]
    by_cases same : key = entry.1
    · have none : entries.lookup key = none := by
        refine List.lookup_eq_none_iff.mpr fun other member => ?_
        rw [bne_iff_ne, same]
        intro is
        exact absent (List.mem_map.mpr ⟨other, member, is.symm⟩)
      rw [none, same, beq_self_eq_true]
      rfl
    · rw [beq_eq_false_iff_ne.mpr same]
      exact Option.or_none

/-- What the configured presets and the report's own one say about an option. -/
theorem Presets.find?_resolve (presets : Presets) (report : ReportKind) (key : String) :
    (presets.resolve report).find? key =
      ((presets.find? report.name).bind (·.find? key)).or (report.preset.lookup key) := by
  have own : (SortedMap.ofList report.preset).find? key = report.preset.lookup key := by
    rw [SortedMap.find?_ofList, lookup_reverse report.nodup_preset]
  rw [resolve]
  cases presets.find? report.name with
  | none => exact own
  | some configured =>
    dsimp only
    rw [SortedMap.find?_extend, own, ← Ascending.find?_eq_lookup]
    rfl

/-- What the layers say about an option: the last assignment of it counts, then the configured
table of the report, then the report's own preset. -/
def layered (report : ReportKind) (presets : Presets) (assignments : List (String × String))
    (key : String) : Option String :=
  (assignments.reverse.lookup key).or
    (((presets.find? report.name).bind (·.find? key)).or (report.preset.lookup key))

/-- **The last layer that names an option counts.** -/
theorem find?_extend_resolve (presets : Presets) (report : ReportKind)
    (assignments : List (String × String)) (key : String) :
    ((presets.resolve report).extend assignments).find? key =
      layered report presets assignments key := by
  rw [SortedMap.find?_extend, Presets.find?_resolve, layered]

namespace ReportRequest

variable {request : ReportRequest} {tree : FileTree}

/-- Why the filter of a request cannot be resolved: the presets cannot be loaded, or an assignment
assigns nothing; the first one that does is told. -/
inductive Unresolved (request : ReportRequest) (tree : FileTree) : Failure → Prop
  | presets {path : Path} {error : ConfigError} (named : request.config = some path)
      (failed : Presets.load tree path = .error error) :
      Unresolved request tree (.presets path error)
  | assignment {presets : Presets} {before after : List String} {text : String}
      (loaded : request.presets tree = .ok presets)
      (split : request.assignments = before ++ text :: after)
      (fine : ∀ earlier ∈ before, ¬ AssignsNothing earlier) (refused : AssignsNothing text) :
      Unresolved request tree (.assignment ⟨text⟩)

theorem presets_eq_error_iff {failure : Failure} :
    request.presets tree = .error failure ↔
      ∃ path error, request.config = some path ∧ Presets.load tree path = .error error ∧
        failure = .presets path error := by
  rw [presets]
  cases request.config with
  | none => simp
  | some path =>
    dsimp only
    rw [mapError_eq_error_iff]
    constructor
    · rintro ⟨error, failed, rfl⟩
      exact ⟨path, error, rfl, failed, rfl⟩
    · rintro ⟨_, error, is, failed, rfl⟩
      obtain rfl := Option.some.inj is
      exact ⟨error, failed, rfl⟩

theorem filter_eq_ok_iff {filter : OptionFilter} :
    request.filter tree = .ok filter ↔
      ∃ presets pairs, request.presets tree = .ok presets ∧
        List.Forall₂ Assigns request.assignments pairs ∧
          (presets.resolve request.report).extend pairs = filter := by
  simp only [ReportRequest.filter, bind_eq_ok_iff, mapError_eq_ok_iff, mapM_eq_ok_iff,
    parseAssignment_eq_ok_iff]
  constructor
  · rintro ⟨presets, loaded, pairs, assigned, done⟩
    exact ⟨presets, pairs, loaded, assigned, Except.ok.inj done⟩
  · rintro ⟨presets, pairs, loaded, assigned, rfl⟩
    exact ⟨presets, loaded, pairs, assigned, rfl⟩

/-- **A filter fails for the reasons listed**, and for no others. -/
theorem filter_eq_error_iff {failure : Failure} :
    request.filter tree = .error failure ↔ Unresolved request tree failure := by
  simp only [ReportRequest.filter, bind_eq_error_iff, mapError_eq_error_iff, mapError_eq_ok_iff,
    mapM_eq_error_iff, parseAssignment_eq_ok_iff, parseAssignment_eq_error_iff,
    presets_eq_error_iff, exists_assigns_iff]
  constructor
  · rintro (⟨path, error, named, failed, rfl⟩ | ⟨presets, loaded,
      ⟨error, ⟨before, text, after, split, fine, refused, rfl⟩, rfl⟩ | ⟨_, _, impossible⟩⟩)
    · exact .presets named failed
    · exact .assignment loaded split fine refused
    · cases impossible
  · rintro (⟨named, failed⟩ | ⟨loaded, split, fine, refused⟩)
    · exact .inl ⟨_, _, named, failed, rfl⟩
    · exact .inr ⟨_, loaded, .inl ⟨_, ⟨_, _, _, split, fine, refused, rfl⟩, rfl⟩⟩

theorem assigns_of_check (checked : request.check = .ok ()) :
    ∀ text ∈ request.assignments, ¬ AssignsNothing text := by
  rw [check] at checked
  cases files : request.files.isEmpty with
  | true =>
    rw [files] at checked
    cases checked
  | false =>
    rw [files] at checked
    obtain ⟨pairs, read, -⟩ := bind_eq_ok_iff.mp checked
    have each := exists_mapM_eq_ok_iff.mp ⟨pairs, mapError_eq_ok_iff.mp read⟩
    simp only [parseAssignment_eq_ok_iff, exists_assigns_iff] at each
    exact each

/-- A listing tells a text for a report: it succeeds, and the line of the report, one of the lines
for all reports on profiles, is the report's name in its column and the text. -/
structure Tells (listing : Outcome) (report : ProfileReport) (text : String) : Prop where
  succeeds : listing.result = .ok ()
  line : ∃ lines : ProfileReport → String,
    listing.printed = printedLines (ProfileReport.all.map lines) ∧ report ∈ ProfileReport.all ∧
      lines report = listedName report.name ++ " " ++ text

theorem tells_of_presets {presets : Presets} (loaded : request.presets tree = .ok presets)
    (report : ProfileReport) :
    Tells (listPresets tree request.config) report
      (if (presets.resolve (.ofProfiles report)).isEmpty then "(every profile)"
        else (presets.resolve (.ofProfiles report)).display) := by
  have listing : listPresets tree request.config =
      ⟨.ok (), printedLines (ProfileReport.all.map presets.line), [], tree⟩ := by
    rw [ReportRequest.presets] at loaded
    cases config : request.config with
    | none =>
      rw [config] at loaded
      rw [← Except.ok.inj loaded]
      rfl
    | some path =>
      rw [config] at loaded
      have read : Presets.load tree path = .ok presets := mapError_eq_ok_iff.mp loaded
      simp only [listPresets, read, Except.mapError]
  rw [listing]
  refine ⟨rfl, presets.line, rfl, ?_, rfl⟩
  cases report <;> decide

/-- Option values for a report: one that its own preset gives, one that it gives otherwise, and one
that it does not give. -/
def presetFile : FileTree :=
  .ofTexts [("presets.toml", "[presets.precision]\n" ++
    "profile = \"no\"\ntraces = \"true\"\nwarm = \"up\"\n")]

/-- A request with these values that sets an option, sets another one to nothing, and sets the first
one again. -/
def reconsidered : ReportRequest where
  report := .ofProfiles .precision
  files := [⟨"run.py"⟩]
  config := some ⟨"presets.toml"⟩
  assignments := [" profile = false", "out=", "profile\t= a=b "]
  output := none

/-- The same request without assignments. -/
def configured : ReportRequest :=
  { reconsidered with assignments := [] }

end ReportRequest

end DumpDigest
