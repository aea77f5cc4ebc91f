import DumpDigest.Proofs.Files.Changes
import DumpDigest.Proofs.Literal.Image
import DumpDigest.Proofs.Profile.Shape
import DumpDigest.Run.Log
import Mathlib.Data.List.Basic

/-!
# Loading several dumps

`Loads` and `Refuses` say what a file holds and why it holds nothing, for profiles and for static
summaries alike: the two differ in how a record is taken.  `FileTree.loadAs_eq_ok_iff` and
`FileTree.loadAs_eq_error_iff` compare the loader of one file with them.

`batches_exact` is the main result.  `FirstRefusal` names the file that decides when one is at
fault, and `LoadsExactly` says of a way of loading that the first such file decides, that otherwise
everything is there in order, and that files whose names are not accepted do not matter.  It is
proved once, for loading all files in order, and carried over by `LoadsExactly.map`.  Profiles are
loaded in one loop that counts on the way; `FileTree.foldlM_loadNext` says what its rounds add up to
from wherever they start.
-/

namespace DumpDigest

open Result

/-! ### One dump -/

/-- How a record is taken as a dump of some type, in the file at a path. -/
abbrev DumpForm (α : Type) := Path → Record → Except ShapeError α

/-- Records as profiles. -/
def profileForm : DumpForm Profile :=
  fun path record => Profile.ofRecord record path path.baseName

/-- Records as static summaries, which all of them are. -/
def summaryForm : DumpForm StaticStats :=
  fun path record => .ok ⟨path.stem, record⟩

/-- The text of a file is the literal of a record that has the form. -/
inductive Loads {α : Type} (tree : FileTree) (form : DumpForm α) (path : Path) : α → Prop
  | mk {text : String} {record : Record} {result : α} (read : tree.readText path = .ok text)
      (parsed : Literal.parseRecord text = .ok record) (shaped : form path record = .ok result) :
      Loads tree form path result

/-- A file cannot be read, or its text is no literal of a record, or the record does not have the
form. -/
inductive Refuses {α : Type} (tree : FileTree) (form : DumpForm α) (path : Path) : LoadError → Prop
  | unreadable {reason : FileError} (read : tree.readText path = .error reason) :
      Refuses tree form path (.unreadable path reason)
  | malformed {text : String} {reason : Literal.ParseError} (read : tree.readText path = .ok text)
      (parsed : Literal.parseRecord text = .error reason) :
      Refuses tree form path (.malformed path reason)
  | misshapen {text : String} {record : Record} {reason : ShapeError}
      (read : tree.readText path = .ok text) (parsed : Literal.parseRecord text = .ok record)
      (shaped : form path record = .error reason) :
      Refuses tree form path (.misshapen path reason)

namespace FileTree

variable {α : Type} {tree : FileTree} {path : Path}

theorem loadRecord_eq_ok_iff {record : Record} :
    tree.loadRecord path = .ok record ↔
      ∃ text, tree.readText path = .ok text ∧ Literal.parseRecord text = .ok record := by
  simp only [loadRecord, bind_eq_ok_iff, mapError_eq_ok_iff]

theorem loadRecord_eq_error_iff {error : LoadError} :
    tree.loadRecord path = .error error ↔
      (∃ reason, tree.readText path = .error reason ∧ .unreadable path reason = error) ∨
        ∃ text, tree.readText path = .ok text ∧
          ∃ reason, Literal.parseRecord text = .error reason ∧ .malformed path reason = error := by
  simp only [loadRecord, bind_eq_error_iff, mapError_eq_ok_iff, mapError_eq_error_iff]

/-- The dump in a file, in some form. -/
def loadAs (tree : FileTree) (form : DumpForm α) (path : Path) : Except LoadError α := do
  let record ← tree.loadRecord path
  (form path record).mapError (.misshapen path)

theorem loadProfile_eq (tree : FileTree) : tree.loadProfile = tree.loadAs profileForm := rfl

theorem loadSummary_eq (tree : FileTree) : tree.loadSummary = tree.loadAs summaryForm := by
  funext path
  rw [loadSummary, loadAs]
  cases tree.loadRecord path <;> rfl

/-- **What a loader finds** is what the file holds. -/
theorem loadAs_eq_ok_iff {form : DumpForm α} {dump : α} :
    tree.loadAs form path = .ok dump ↔ Loads tree form path dump := by
  simp only [loadAs, bind_eq_ok_iff, loadRecord_eq_ok_iff, mapError_eq_ok_iff]
  constructor
  · rintro ⟨record, ⟨text, read, parsed⟩, shaped⟩
    exact .mk read parsed shaped
  · rintro ⟨read, parsed, shaped⟩
    exact ⟨_, ⟨_, read, parsed⟩, shaped⟩

/-- **Why a loader fails** is why the file holds nothing. -/
theorem loadAs_eq_error_iff {form : DumpForm α} {error : LoadError} :
    tree.loadAs form path = .error error ↔ Refuses tree form path error := by
  simp only [loadAs, bind_eq_error_iff, loadRecord_eq_error_iff, loadRecord_eq_ok_iff,
    mapError_eq_error_iff]
  constructor
  · rintro ((⟨reason, read, rfl⟩ | ⟨text, read, reason, parsed, rfl⟩) |
      ⟨record, ⟨text, read, parsed⟩, reason, shaped, rfl⟩)
    · exact .unreadable read
    · exact .malformed read parsed
    · exact .misshapen read parsed shaped
  · intro refuses
    cases refuses with
    | unreadable read => exact .inl (.inl ⟨_, read, rfl⟩)
    | malformed read parsed => exact .inl (.inr ⟨_, read, _, parsed, rfl⟩)
    | misshapen read parsed shaped => exact .inr ⟨_, ⟨_, read, parsed⟩, _, shaped, rfl⟩

/-- Only what reading a file gives matters to loading it. -/
theorem loadAs_congr {first second : FileTree} (form : DumpForm α)
    (agree : first.read path = second.read path) :
    first.loadAs form path = second.loadAs form path := by
  have records : first.loadRecord path = second.loadRecord path := by
    rw [loadRecord, loadRecord, readText, readText, agree]
  rw [loadAs, loadAs, records]

end FileTree

theorem Loads.source {tree : FileTree} {path : Path} {profile : Profile}
    (h : Loads tree profileForm path profile) : profile.source = path := by
  cases h with
  | mk read parsed shaped =>
    obtain ⟨given, mainClass, -, -, rfl⟩ := Profile.ofRecord_eq_ok_iff.mp shaped
    rfl

theorem Loads.name {tree : FileTree} {path : Path} {summary : StaticStats}
    (h : Loads tree summaryForm path summary) : summary.name = path.stem := by
  cases h with
  | mk read parsed shaped =>
    obtain rfl := Except.ok.inj shaped
    rfl

/-! ### Several dumps -/

/-- The first file that holds no dump, and why. -/
def FirstRefusal {α : Type} (tree : FileTree) (form : DumpForm α) (paths : List Path)
    (error : LoadError) : Prop :=
  ∃ before path after, paths = before ++ path :: after ∧
    (∀ earlier ∈ before, ∃ dump, Loads tree form earlier dump) ∧ Refuses tree form path error

/-- A way of loading files is exact: it fails as the first file that holds no dump makes it fail, it
makes a result of the dumps in the order of their files otherwise, and nothing else in the tree
matters to it. -/
structure LoadsExactly {α β : Type} (load : FileTree → Except LoadError β) (form : DumpForm α)
    (paths : List Path) (result : List α → β) : Prop where
  error : ∀ tree error, load tree = .error error ↔ FirstRefusal tree form paths error
  ok : ∀ tree loaded, load tree = .ok loaded ↔
    ∃ dumps, List.Forall₂ (Loads tree form) paths dumps ∧ result dumps = loaded
  agree : ∀ first second : FileTree, (∀ path ∈ paths, first.read path = second.read path) →
    load first = load second

theorem loadsExactly_mapM {α : Type} (form : DumpForm α) (paths : List Path) :
    LoadsExactly (fun tree => paths.mapM (tree.loadAs form)) form paths id where
  error tree error := by
    rw [mapM_eq_error_iff]
    simp only [FirstRefusal, FileTree.loadAs_eq_ok_iff, FileTree.loadAs_eq_error_iff]
  ok tree dumps := by
    simp only [mapM_eq_ok_iff, FileTree.loadAs_eq_ok_iff, id, exists_eq_right]
  agree _ _ same := mapM_congr fun path member => FileTree.loadAs_congr form (same path member)

/-- A result made of what an exact way of loading gives is loaded exactly. -/
theorem LoadsExactly.map {α β γ : Type} {load : FileTree → Except LoadError β} {form : DumpForm α}
    {paths : List Path} {result : List α → β} (h : LoadsExactly load form paths result)
    (change : β → γ) :
    LoadsExactly (fun tree => change <$> load tree) form paths (change ∘ result) where
  error tree error := map_eq_error_iff.trans (h.error tree error)
  ok tree loaded := by
    rw [map_eq_ok_iff]
    constructor
    · rintro ⟨_, read, rfl⟩
      obtain ⟨dumps, holds, rfl⟩ := (h.ok tree _).mp read
      exact ⟨dumps, holds, rfl⟩
    · rintro ⟨dumps, holds, rfl⟩
      exact ⟨result dumps, (h.ok tree _).mpr ⟨dumps, holds, rfl⟩, rfl⟩
  agree first second same := congrArg _ (h.agree first second same)

/-- The profiles that are kept of those loaded, and how many files and profiles are left out. -/
def selected (accepts : String → Bool) (keeps : Profile → Bool) (paths : List Path)
    (profiles : List Profile) : LoadedProfiles where
  profiles := profiles.filter keeps
  skipped := (paths.filter fun path => !accepts path.baseName).length
  dropped := (profiles.filter fun profile => !keeps profile).length

/-- What is loaded first, and then more. -/
def LoadedProfiles.append (first second : LoadedProfiles) : LoadedProfiles where
  profiles := first.profiles ++ second.profiles
  skipped := first.skipped + second.skipped
  dropped := first.dropped + second.dropped

section Rounds

variable {accepts : String → Bool} {keeps : Profile → Bool} {tree : FileTree} {path : Path}

theorem selected_append (paths more : List Path) (profiles others : List Profile) :
    selected accepts keeps (paths ++ more) (profiles ++ others) =
      (selected accepts keeps paths profiles).append (selected accepts keeps more others) := by
  simp [selected, LoadedProfiles.append]

theorem LoadedProfiles.append_assoc (first second third : LoadedProfiles) :
    (first.append second).append third = first.append (second.append third) := by
  simp [LoadedProfiles.append, Nat.add_assoc]

namespace FileTree

theorem loadNext_of_rejected (rejected : accepts path.baseName = false) (loaded : LoadedProfiles) :
    tree.loadNext accepts keeps loaded path =
      .ok (loaded.append (selected accepts keeps [path] [])) := by
  simp [loadNext, rejected, selected, LoadedProfiles.append, pure, Except.pure]

/-- **One round of the loader** that opens its file adds what is selected of that file. -/
theorem loadNext_of_accepted (accepted : accepts path.baseName = true) (loaded : LoadedProfiles) :
    tree.loadNext accepts keeps loaded path =
      (fun profile => loaded.append (selected accepts keeps [path] [profile])) <$>
        tree.loadProfile path := by
  rw [loadNext, accepted]
  cases tree.loadProfile path with
  | error error => rfl
  | ok profile =>
    show (if keeps profile = true then _ else _ : Except LoadError LoadedProfiles) = .ok _
    split
    · next kept => simp [selected, LoadedProfiles.append, accepted, kept, pure, Except.pure]
    · next dropped => simp [selected, LoadedProfiles.append, accepted, dropped, pure, Except.pure]

/-- **All rounds of the loader**, from what is loaded already: they add what is selected of the
files behind it. -/
theorem foldlM_loadNext (loaded : LoadedProfiles) (paths : List Path) :
    paths.foldlM (tree.loadNext accepts keeps) loaded =
      (fun profiles => loaded.append (selected accepts keeps paths profiles)) <$>
        (paths.filter (accepts ·.baseName)).mapM tree.loadProfile := by
  induction paths generalizing loaded with
  | nil => simp [LoadedProfiles.append, selected]
  | cons path paths ih =>
    have parts : ∀ profiles others, (loaded.append (selected accepts keeps [path] profiles)).append
        (selected accepts keeps paths others) =
          loaded.append (selected accepts keeps (path :: paths) (profiles ++ others)) := by
      intro profiles others
      rw [LoadedProfiles.append_assoc, ← selected_append]
      rfl
    rw [List.foldlM_cons]
    cases accepted : accepts path.baseName with
    | false =>
      rw [loadNext_of_rejected accepted]
      refine (ih _).trans ?_
      simp only [List.filter_cons, accepted, Bool.false_eq_true, if_false, parts, List.nil_append]
    | true =>
      rw [loadNext_of_accepted accepted]
      simp only [List.filter_cons, accepted, if_true, List.mapM_cons]
      cases tree.loadProfile path with
      | error error => rfl
      | ok profile =>
        refine (ih _).trans ?_
        simp only [parts, List.singleton_append]
        cases (paths.filter (accepts ·.baseName)).mapM tree.loadProfile <;> rfl

end FileTree

end Rounds

theorem loadsExactly_loadProfiles (accepts : String → Bool) (keeps : Profile → Bool)
    (paths : List Path) :
    LoadsExactly (·.loadProfiles accepts keeps paths) profileForm
      (paths.filter (accepts ·.baseName)) (selected accepts keeps paths) := by
  have exact := (loadsExactly_mapM profileForm (paths.filter (accepts ·.baseName))).map
    (selected accepts keeps paths)
  have same : (fun tree : FileTree => tree.loadProfiles accepts keeps paths) = fun tree =>
      selected accepts keeps paths <$>
        (paths.filter (accepts ·.baseName)).mapM (tree.loadAs profileForm) := by
    funext tree
    rw [FileTree.loadProfiles, FileTree.foldlM_loadNext, FileTree.loadProfile_eq]
    simp [LoadedProfiles.append]
  rw [same]
  exact exact

theorem loadsExactly_loadSummaries (paths : List Path) :
    LoadsExactly (·.loadSummaries paths) summaryForm paths id := by
  have same : (fun tree : FileTree => tree.loadSummaries paths) = fun tree =>
      paths.mapM (tree.loadAs summaryForm) := by
    funext tree
    rw [FileTree.loadSummaries, FileTree.loadSummary_eq]
  rw [same]
  exact loadsExactly_mapM summaryForm paths

namespace FileTree

variable {tree : FileTree} {accepts : String → Bool} {keeps : Profile → Bool} {paths : List Path}

theorem loadProfiles_eq_error_iff {error : LoadError} :
    tree.loadProfiles accepts keeps paths = .error error ↔
      FirstRefusal tree profileForm (paths.filter (accepts ·.baseName)) error :=
  (loadsExactly_loadProfiles accepts keeps paths).error tree error

theorem loadProfiles_eq_ok_iff {loaded : LoadedProfiles} :
    tree.loadProfiles accepts keeps paths = .ok loaded ↔
      ∃ profiles,
        List.Forall₂ (Loads tree profileForm) (paths.filter (accepts ·.baseName)) profiles ∧
          selected accepts keeps paths profiles = loaded :=
  (loadsExactly_loadProfiles accepts keeps paths).ok tree loaded

theorem loadSummaries_eq_error_iff {error : LoadError} :
    tree.loadSummaries paths = .error error ↔ FirstRefusal tree summaryForm paths error :=
  (loadsExactly_loadSummaries paths).error tree error

theorem loadSummaries_eq_ok_iff {summaries : List StaticStats} :
    tree.loadSummaries paths = .ok summaries ↔
      List.Forall₂ (Loads tree summaryForm) paths summaries := by
  rw [(loadsExactly_loadSummaries paths).ok tree summaries]
  simp only [id, exists_eq_right]

end FileTree

theorem selected_counts (accepts : String → Bool) (keeps : Profile → Bool) {paths : List Path}
    {profiles : List Profile}
    (opened : profiles.length = (paths.filter (accepts ·.baseName)).length) :
    ∃ kept skipped dropped, (selected accepts keeps paths profiles).note =
      .profilesLoaded kept skipped dropped ∧
        kept = (selected accepts keeps paths profiles).profiles.length ∧
        kept + skipped + dropped = paths.length := by
  refine ⟨_, _, _, rfl, rfl, ?_⟩
  have skipped := List.length_eq_length_filter_add (l := paths) (accepts ·.baseName)
  have dropped := List.length_eq_length_filter_add (l := profiles) keeps
  dsimp only [selected]
  omega

/-- **Batches are loaded exactly**: profiles from the files whose names are accepted, with the
counts of what is left out, and static summaries from all files.  A profile remembers the path of
its file, a summary has the stem of its file as its name, and no file is lost from the counts that
are noted. -/
theorem batches_exact (accepts : String → Bool) (keeps : Profile → Bool) (paths : List Path) :
    LoadsExactly (·.loadProfiles accepts keeps paths) profileForm
        (paths.filter (accepts ·.baseName)) (selected accepts keeps paths) ∧
      (∀ tree path profile, Loads tree profileForm path profile → profile.source = path) ∧
      (∀ tree loaded, FileTree.loadProfiles tree accepts keeps paths = .ok loaded →
        ∃ kept skipped dropped, loaded.note = .profilesLoaded kept skipped dropped ∧
          kept = loaded.profiles.length ∧ kept + skipped + dropped = paths.length) ∧
      LoadsExactly (·.loadSummaries paths) summaryForm paths id ∧
      ∀ tree path summary, Loads tree summaryForm path summary → summary.name = path.stem := by
  have exact := loadsExactly_loadProfiles accepts keeps paths
  refine ⟨exact, fun _ _ _ loads => loads.source, ?_, loadsExactly_loadSummaries paths,
    fun _ _ _ loads => loads.name⟩
  intro tree loaded read
  obtain ⟨profiles, loads, rfl⟩ := (exact.ok tree loaded).mp read
  exact selected_counts accepts keeps loads.length_eq.symm

/-- A tree with files in its top directory, which hold texts. -/
def FileTree.ofTexts (files : List (String × String)) : FileTree where
  entries := .ofList (files.map fun (name, text) => ([name], .file text.toUTF8))
  workingDirectory := []

/-- A record with options, but without a main class. -/
def plainRecord : Record :=
  .cons "options" (.record .nil) trivial .nil

/-- A tree with a record in the file `a`. -/
def oneDump : FileTree :=
  .ofTexts [("a", String.ofList (Literal.written (.record plainRecord)))]

/-- The same tree with a file `b` that is no text. -/
def dumpAndGarbage : FileTree :=
  oneDump.put ["b"] (.file ⟨#[0xff]⟩)

theorem garbage_not_opened :
    (∀ path ∈ [(⟨"b"⟩ : Path), ⟨"a"⟩].filter (fun path => path.baseName == "a"),
      dumpAndGarbage.read path = oneDump.read path) ∧
    ∃ loaded, dumpAndGarbage.loadProfiles (· == "a") (fun _ => true) [⟨"b"⟩, ⟨"a"⟩] = .ok loaded ∧
      loaded.profiles.map (·.source) = [⟨"a"⟩] ∧
      ∃ kept skipped dropped, loaded.note = .profilesLoaded kept skipped dropped ∧
        kept = loaded.profiles.length ∧ kept + skipped + dropped = 2 := by
  obtain ⟨profiles, source, counts, -, -⟩ :=
    batches_exact (· == "a") (fun _ => true) [⟨"b"⟩, ⟨"a"⟩]
  have opened : [(⟨"b"⟩ : Path), ⟨"a"⟩].filter (fun path => path.baseName == "a") = [⟨"a"⟩] := rfl
  have agree : ∀ path ∈ [(⟨"b"⟩ : Path), ⟨"a"⟩].filter (fun path => path.baseName == "a"),
      dumpAndGarbage.read path = oneDump.read path := by
    rw [opened]
    exact List.forall_mem_singleton.mpr rfl
  have fits : Value.Fits 64 (.record plainRecord) :=
    Value.fits_record_iff.mpr (List.forall_mem_singleton.mpr
      (Value.fits_record_iff.mpr fun _ absent => (by cases absent)))
  have floatless : ∀ number, .float number ∉ Value.parts (.record plainRecord) := by
    simp [plainRecord, Value.parts, Value.fieldsParts]
  have parsed : Literal.parseRecord (String.ofList (Literal.written (.record plainRecord))) =
      .ok plainRecord := by
    rw [Literal.parseRecord, Literal.parse_written fits floatless]
  have loads : Loads oneDump profileForm ⟨"a"⟩ (.completed plainRecord .nil "a" ⟨"a"⟩) :=
    .mk (FileTree.readText_of_read rfl) parsed rfl
  have loaded := (profiles.ok oneDump _).mpr ⟨[_], .cons loads .nil, rfl⟩
  rw [← profiles.agree _ _ agree] at loaded
  exact ⟨agree, _, loaded, congrArg (fun path => [path]) (source _ _ _ loads), counts _ _ loaded⟩

end DumpDigest
