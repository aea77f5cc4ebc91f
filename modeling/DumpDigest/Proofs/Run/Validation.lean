import DumpDigest.Proofs.Literal.Termination
import DumpDigest.Proofs.Loading
import DumpDigest.Proofs.Profile.Completion
import DumpDigest.Run.Validation

/-!
# What validating dumps says

A file is described by the record that it holds and by nothing else (`describe_eq`): the line is
that of a profile if the record is one, and that of a static summary otherwise.  Looking at the file
a second time therefore never fails.

`described_by_options` says which of the two it is.  A record without options is a static summary
and most records with options are profiles, but options with a main class that is no string make a
record a static summary, too: `numbered_class_is_static`.

`validation_exact` is about several files.  `Validates` lists the two ways in which the command can
end, and `describeAll_append` is the step through files that hold records.
-/

namespace DumpDigest

open Result

/-! ### The record in a file -/

/-- The text of a file is the literal of a record. -/
def HoldsRecord (tree : FileTree) (path : Path) (record : Record) : Prop :=
  ∃ text, tree.readText path = .ok text ∧ Literal.parseRecord text = .ok record

/-- The line for a record in the file at a path. -/
def recordLine (path : Path) (record : Record) : String :=
  match Profile.ofRecord record path path.baseName with
  | .ok profile => profile.summary path
  | .error _ => (⟨path.stem, record⟩ : StaticStats).summary path

/-- A line describes the record in a file. -/
def Describes (tree : FileTree) (path : Path) (line : String) : Prop :=
  ∃ record, HoldsRecord tree path record ∧ recordLine path record = line

namespace FileTree

variable {tree : FileTree} {path : Path}

theorem loadSummary_eq_error_iff {error : LoadError} :
    tree.loadSummary path = .error error ↔ tree.loadRecord path = .error error :=
  map_eq_error_iff

theorem loadProfile_of_record {record : Record} (held : tree.loadRecord path = .ok record) :
    tree.loadProfile path =
      (Profile.ofRecord record path path.baseName).mapError (.misshapen path) := by
  rw [loadProfile, held]
  rfl

/-- **A file is described by its record.** -/
theorem describe_eq (tree : FileTree) (path : Path) :
    tree.describe path = recordLine path <$> tree.loadRecord path := by
  cases held : tree.loadRecord path with
  | error error =>
    have refused : tree.loadProfile path = .error error := by
      rw [loadProfile, held]
      rfl
    rw [describe, refused]
    -- Only the shape of a record makes the command look at the file again.
    rcases loadRecord_eq_error_iff.mp held with ⟨reason, -, rfl⟩ | ⟨text, -, reason, -, rfl⟩
    · rfl
    · rfl
  | ok record =>
    have summary : tree.loadSummary path = .ok ⟨path.stem, record⟩ := by
      rw [loadSummary, held]
      rfl
    rw [describe, loadProfile_of_record held, summary]
    simp only [recordLine, Functor.map, Except.map]
    cases Profile.ofRecord record path path.baseName <;> rfl

theorem describe_eq_ok_iff {line : String} :
    tree.describe path = .ok line ↔ Describes tree path line := by
  simp only [describe_eq, map_eq_ok_iff, loadRecord_eq_ok_iff, Describes, HoldsRecord]

theorem describe_eq_error_iff {error : LoadError} :
    tree.describe path = .error error ↔ Refuses tree summaryForm path error := by
  rw [describe_eq, map_eq_error_iff, ← loadSummary_eq_error_iff, loadSummary_eq,
    loadAs_eq_error_iff]

/-- **A record that is no profile can be loaded as a static summary.** -/
theorem loadSummary_of_misshapen {named : Path} {reason : ShapeError}
    (misshapen : tree.loadProfile path = .error (.misshapen named reason)) :
    ∃ stats, tree.loadSummary path = .ok stats := by
  rw [loadProfile_eq, loadAs_eq_error_iff] at misshapen
  cases misshapen with
  | misshapen read parsed shaped =>
    rw [loadSummary_eq]
    exact ⟨_, loadAs_eq_ok_iff.mpr (.mk read parsed rfl)⟩

end FileTree

/-! ### Profiles and static summaries -/

/-- A file is described as a profile. -/
def DescribedAsProfile (tree : FileTree) (path : Path) : Prop :=
  ∃ profile : Profile, tree.describe path = .ok (profile.summary path)

/-- A file is described as a static summary. -/
def DescribedAsStatic (tree : FileTree) (path : Path) : Prop :=
  ∃ stats : StaticStats, tree.describe path = .ok (stats.summary path)

theorem summaries_differ (profile : Profile) (stats : StaticStats) (path : Path) :
    profile.summary path ≠ stats.summary path := by
  intro same
  simp only [Profile.summary, StaticStats.summary, String.append_assoc, ← String.toList_inj,
    String.toList_append, List.append_cancel_left_eq] at same
  simp at same

section Classes

variable {tree : FileTree} {path : Path} {record : Record}

theorem describe_of_holds (held : HoldsRecord tree path record) :
    tree.describe path = .ok (recordLine path record) :=
  FileTree.describe_eq_ok_iff.mpr ⟨record, held, rfl⟩

theorem describedAsProfile_iff (held : HoldsRecord tree path record) :
    DescribedAsProfile tree path ↔ ∃ given, HasOptions record given := by
  rw [← @Profile.exists_ofRecord_iff record path path.baseName, DescribedAsProfile,
    describe_of_holds held, recordLine]
  constructor
  · rintro ⟨profile, line⟩
    split at line
    · next made => exact ⟨_, made⟩
    · exact absurd (Except.ok.inj line).symm (summaries_differ profile _ path)
  · rintro ⟨profile, made⟩
    rw [made]
    exact ⟨profile, rfl⟩

/-- **What is not described as a profile is described as a static summary.** -/
theorem describedAsStatic_iff (held : HoldsRecord tree path record) :
    DescribedAsStatic tree path ↔ ¬ DescribedAsProfile tree path := by
  have line := describe_of_holds held
  constructor
  · rintro ⟨stats, static⟩ ⟨profile, dynamic⟩
    exact summaries_differ profile stats path (Except.ok.inj (dynamic.symm.trans static))
  · intro noProfile
    rw [recordLine] at line
    split at line
    · exact absurd ⟨_, line⟩ noProfile
    · exact ⟨_, line⟩

/-- **Which records are static summaries**: those whose options are missing or no record, and those
whose options name a main class by something else than a string.  As long as every main class is a
string, a file is described as a static summary exactly if its record has no options, and as a
profile otherwise. -/
theorem described_by_options (held : HoldsRecord tree path record) :
    (DescribedAsStatic tree path ↔
      (∀ given, record.find? "options" ≠ some (.record given)) ∨
        ∃ given value, record.find? "options" = some (.record given) ∧
          given.find? "mainClass" = some value ∧ ∀ name, value ≠ .string name) ∧
    ((∀ given value, record.find? "options" = some (.record given) →
        given.find? "mainClass" = some value → ∃ name, value = .string name) →
      (DescribedAsStatic tree path ↔ ∀ given, record.find? "options" ≠ some (.record given)) ∧
      (DescribedAsProfile tree path ↔ ∃ given, record.find? "options" = some (.record given))) := by
  rw [describedAsStatic_iff held, describedAsProfile_iff held]
  refine ⟨not_exists_hasOptions_iff, fun strings => ?_⟩
  rw [exists_hasOptions_iff strings]
  exact ⟨not_exists, Iff.rfl⟩

end Classes

/-- The options of a run that name its main class. -/
def cryptRun : Record :=
  .cons "options" (.record (.cons "mainClass" (.string "Crypt") trivial .nil)) trivial .nil

def cryptText : String := "\x7b'options' : \x7b'mainClass' : 'Crypt'\x7d\x7d"

theorem parseRecord_cryptText : Literal.parseRecord cryptText = .ok cryptRun :=
  @Literal.parseRecord_of_scanDocument 99 _ _ (by decide) rfl

theorem named_class_is_profile :
    HoldsRecord (.ofTexts [("a", cryptText)]) ⟨"a"⟩ cryptRun ∧
      DescribedAsProfile (.ofTexts [("a", cryptText)]) ⟨"a"⟩ ∧
      ¬ DescribedAsStatic (.ofTexts [("a", cryptText)]) ⟨"a"⟩ := by
  have held : HoldsRecord (.ofTexts [("a", cryptText)]) ⟨"a"⟩ cryptRun :=
    ⟨cryptText, FileTree.readText_of_read rfl, parseRecord_cryptText⟩
  obtain ⟨-, documented⟩ := described_by_options held
  obtain ⟨static, profile⟩ := documented (by
    rintro given value ⟨rfl⟩ ⟨rfl⟩
    exact ⟨"Crypt", rfl⟩)
  exact ⟨held, profile.mpr ⟨_, rfl⟩, fun described => static.mp described _ rfl⟩

/-- The options of a run that name its main class by a number. -/
def numberedClass : Record :=
  .cons "options" (.record (.cons "mainClass" (.int 3) trivial .nil)) trivial .nil

def numberedText : String := "\x7b'options' : \x7b'mainClass' : 3\x7d\x7d"

/-- **A record with options may be taken for a static summary.** -/
theorem numbered_class_is_static :
    HoldsRecord (.ofTexts [("Crypt-4.py", numberedText)]) ⟨"Crypt-4.py"⟩ numberedClass ∧
      (∃ given, numberedClass.find? "options" = some (.record given)) ∧
      DescribedAsStatic (.ofTexts [("Crypt-4.py", numberedText)]) ⟨"Crypt-4.py"⟩ := by
  have held : HoldsRecord (.ofTexts [("Crypt-4.py", numberedText)]) ⟨"Crypt-4.py"⟩ numberedClass :=
    ⟨numberedText, FileTree.readText_of_read rfl,
      @Literal.parseRecord_of_scanDocument 99 _ _ (by decide) rfl⟩
  exact ⟨held, ⟨_, rfl⟩, ⟨⟨"Crypt-4", numberedClass⟩, describe_of_holds held⟩⟩

/-! ### Several files -/

/-- How validating files ends.  Either all of them hold records, and behind their lines stands the
number of files; or some file holds none, and the lines are those of the files before the first such
file. -/
inductive Validates (tree : FileTree) (paths : List Path) : Outcome → Prop
  | valid {lines : List String} (described : List.Forall₂ (Describes tree) paths lines) :
      Validates tree paths ⟨.ok (), printedLines (lines ++ [validText paths.length]), [], tree⟩
  | invalid {before after : List Path} {path : Path} {lines : List String} {error : LoadError}
      (split : paths = before ++ path :: after)
      (described : List.Forall₂ (Describes tree) before lines)
      (refuses : Refuses tree summaryForm path error) :
      Validates tree paths ⟨.error (.validation path error), printedLines lines, [], tree⟩

section Files

variable {tree : FileTree} {paths : List Path}

theorem mapM_describe_iff {lines : List String} :
    paths.mapM tree.describe = .ok lines ↔ List.Forall₂ (Describes tree) paths lines := by
  simp only [mapM_eq_ok_iff, FileTree.describe_eq_ok_iff]

theorem describeAll_of_ok {path : Path} {line : String}
    (described : tree.describe path = .ok line) :
    tree.describeAll (path :: paths) =
      (line :: (tree.describeAll paths).1, (tree.describeAll paths).2) := by
  simp only [FileTree.describeAll, described]

theorem describeAll_of_error {path : Path} {error : LoadError}
    (refused : tree.describe path = .error error) :
    tree.describeAll (path :: paths) = ([], .error (.validation path error)) := by
  simp only [FileTree.describeAll, refused]

/-- Files that hold records put their lines in front of those of the files behind them. -/
theorem describeAll_append {before : List Path} {lines : List String}
    (described : List.Forall₂ (Describes tree) before lines) (rest : List Path) :
    tree.describeAll (before ++ rest) =
      (lines ++ (tree.describeAll rest).1, (tree.describeAll rest).2) := by
  induction described with
  | nil => rfl
  | @cons path line before lines here _ ih =>
    rw [List.cons_append, describeAll_of_ok (FileTree.describe_eq_ok_iff.mpr here), ih]
    rfl

theorem validateDumps_of_validates {outcome : Outcome} (h : Validates tree paths outcome) :
    validateDumps tree paths = outcome := by
  cases h with
  | @valid lines described =>
    have all : tree.describeAll paths = (lines, .ok ()) := by
      rw [← List.append_nil paths, describeAll_append described]
      exact congrArg (·, _) (List.append_nil lines)
    rw [validateDumps, all]
  | @invalid before after path lines error split described refuses =>
    have upTo : tree.describeAll paths = (lines, .error (.validation path error)) := by
      rw [split, describeAll_append described,
        describeAll_of_error (FileTree.describe_eq_error_iff.mpr refuses)]
      exact congrArg (·, _) (List.append_nil lines)
    rw [validateDumps, upTo]

theorem exists_validates (tree : FileTree) (paths : List Path) :
    ∃ outcome, Validates tree paths outcome := by
  cases attempt : paths.mapM tree.describe with
  | ok lines => exact ⟨_, .valid (mapM_describe_iff.mp attempt)⟩
  | error error =>
    obtain ⟨before, path, after, split, fine, fails⟩ := mapM_eq_error_iff.mp attempt
    obtain ⟨lines, described⟩ := exists_mapM_eq_ok_iff.mpr fine
    exact ⟨_, .invalid split (mapM_describe_iff.mp described)
      (FileTree.describe_eq_error_iff.mp fails)⟩

theorem validateDumps_eq_iff {outcome : Outcome} :
    validateDumps tree paths = outcome ↔ Validates tree paths outcome := by
  constructor
  · rintro rfl
    obtain ⟨outcome, validates⟩ := exists_validates tree paths
    rwa [validateDumps_of_validates validates]
  · exact validateDumps_of_validates

theorem valid_iff :
    (validateDumps tree paths).result = .ok () ↔
      ∀ path ∈ paths, ∃ record, HoldsRecord tree path record := by
  constructor
  · intro valid
    have validates := validateDumps_eq_iff.mp (rfl : validateDumps tree paths = _)
    generalize validateDumps tree paths = outcome at valid validates
    cases validates with
    | invalid => cases valid
    | valid described =>
      intro path member
      obtain ⟨line, line_eq⟩ :=
        exists_mapM_eq_ok_iff.mp ⟨_, mapM_describe_iff.mpr described⟩ path member
      obtain ⟨record, held, -⟩ := FileTree.describe_eq_ok_iff.mp line_eq
      exact ⟨record, held⟩
  · intro held
    have each : ∀ path ∈ paths, ∃ line, tree.describe path = .ok line := by
      intro path member
      obtain ⟨record, holds⟩ := held path member
      exact ⟨_, describe_of_holds holds⟩
    obtain ⟨lines, described⟩ := exists_mapM_eq_ok_iff.mpr each
    rw [validateDumps_of_validates (.valid (mapM_describe_iff.mp described))]

end Files

/-- A record without options. -/
def oneCount : Record := .cons "n" (.int 1) trivial .nil

/-- A profile, a static summary and a text that is cut off. -/
def threeFiles : FileTree :=
  .ofTexts [("a", cryptText), ("b", "\x7b'n' : 1\x7d"), ("c", "\x7b")]

/-- What is wrong with the last of the three files. -/
def cutOff : LoadError :=
  .malformed ⟨"c"⟩ ⟨⟨1, 2⟩, .unterminatedMapping⟩

end DumpDigest
