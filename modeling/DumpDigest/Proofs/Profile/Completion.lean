import DumpDigest.Proofs.Profile.Shape
import DumpDigest.Proofs.SortedMap.Lookup
import DumpDigest.Proofs.Text.Front

/-!
# What a record becomes as a profile

`Completes` says what a profile holds that is made of a record: its main class stands in its
options and at the top, where it replaces whatever stood there, and nothing else differs from the
record.  `ofRecord_eq_ok_iff_completes` says that a profile is made exactly like this, and
`ofRecord_of_completes` that a record completed once stays as it is, whatever the file is called
then.  `completion_exact` puts the two together with the condition under which there is a profile.
-/

namespace DumpDigest

/-- The options of a record are a record themselves, and if they name a main class, it is a
string. -/
def HasOptions (record given : Record) : Prop :=
  record.find? "options" = some (.record given) ∧
    ∀ value, given.find? "mainClass" = some value → ∃ name, value = .string name

/-- **Why a record has no options to complete**: they are missing or no record, or they name a main
class by something else than a string. -/
theorem not_exists_hasOptions_iff {record : Record} :
    (¬ ∃ given, HasOptions record given) ↔
      (∀ given, record.find? "options" ≠ some (.record given)) ∨
        ∃ given value, record.find? "options" = some (.record given) ∧
          given.find? "mainClass" = some value ∧ ∀ name, value ≠ .string name := by
  constructor
  · intro lacks
    by_cases options : ∃ given, record.find? "options" = some (.record given)
    · obtain ⟨given, options⟩ := options
      right
      by_contra each
      refine lacks ⟨given, options, fun value named => ?_⟩
      by_contra noString
      exact each ⟨given, value, options, named, fun name is => noString ⟨name, is⟩⟩
    · exact .inl (not_exists.mp options)
  · rintro (none | ⟨given, value, options, named, noString⟩) ⟨given', options', strings⟩
    · exact none given' options'
    · obtain rfl : given = given' :=
        Value.record.inj (Option.some.inj (options.symm.trans options'))
      obtain ⟨name, is⟩ := strings value named
      exact noString name is

/-- Options that name main classes by strings only can be completed. -/
theorem exists_hasOptions_iff {record : Record}
    (strings : ∀ given value, record.find? "options" = some (.record given) →
      given.find? "mainClass" = some value → ∃ name, value = .string name) :
    (∃ given, HasOptions record given) ↔
      ∃ given, record.find? "options" = some (.record given) :=
  exists_congr fun given => and_iff_left_of_imp fun options value => strings given value options

/-- A profile completes a record with the given options: the main class is the one that the options
name, or else what stands before the first hyphen of a base name; it is put into the options and to
the top; and everything else is as it was. -/
structure Completes (record given : Record) (baseName : String) (profile : Profile) : Prop where
  mainClass : given.find? "mainClass" = some (.string profile.mainClass) ∨
    given.find? "mainClass" = none ∧ Text.Front '-' baseName.toList profile.mainClass.toList
  mainClassOption : profile.options.find? "mainClass" = some (.string profile.mainClass)
  otherOptions : ∀ key, key ≠ "mainClass" → profile.options.find? key = given.find? key
  optionsField : profile.record.find? "options" = some (.record profile.options)
  mainClassField : profile.record.find? "mainClass" = some (.string profile.mainClass)
  otherFields : ∀ key, key ≠ "options" → key ≠ "mainClass" →
    profile.record.find? key = record.find? key

theorem beforeHyphen_eq_iff {text name : String} :
    beforeHyphen text = name ↔ Text.Front '-' text.toList name.toList := by
  rw [← Text.takeWhile_eq_iff_front, beforeHyphen, ← String.toList_inj, String.toList_ofList]

namespace Profile

variable {record given : Record} {source : Path} {baseName mainClass : String} {profile : Profile}

theorem completes_completed
    (named : given.find? "mainClass" = some (.string mainClass) ∨
      given.find? "mainClass" = none ∧ beforeHyphen baseName = mainClass) :
    Completes record given baseName (completed record given mainClass source) where
  mainClass := named.imp id (And.imp id beforeHyphen_eq_iff.mp)
  mainClassOption := SortedMap.find?_insert_self ..
  otherOptions _ differs := SortedMap.find?_insert_of_ne _ _ differs
  optionsField := by
    rw [completed, SortedMap.find?_insert_of_ne _ _ (by decide), SortedMap.find?_insert_self]
  mainClassField := SortedMap.find?_insert_self ..
  otherFields key noOptions noMainClass := by
    rw [completed, SortedMap.find?_insert_of_ne _ _ noMainClass,
      SortedMap.find?_insert_of_ne _ _ noOptions]

/-- **There is one way to complete a record.** -/
theorem eq_completed (h : Completes record given baseName profile) :
    profile = completed record given profile.mainClass profile.source := by
  have options : profile.options =
      SortedMap.insert given "mainClass" (.string profile.mainClass) := by
    refine Ascending.ext_find? fun key => ?_
    by_cases same : key = "mainClass"
    · rw [same, h.mainClassOption, SortedMap.find?_insert_self]
    · rw [h.otherOptions key same, SortedMap.find?_insert_of_ne _ _ same]
  have fields : profile.record =
      (record.insert "options" (.record profile.options)).insert "mainClass"
        (.string profile.mainClass) := by
    refine Ascending.ext_find? fun key => ?_
    by_cases isMainClass : key = "mainClass"
    · rw [isMainClass, h.mainClassField, SortedMap.find?_insert_self]
    rw [SortedMap.find?_insert_of_ne _ _ isMainClass]
    by_cases isOptions : key = "options"
    · rw [isOptions, h.optionsField, SortedMap.find?_insert_self]
    · rw [h.otherFields key isOptions isMainClass, SortedMap.find?_insert_of_ne _ _ isOptions]
  rw [completed, ← options, ← fields]

/-- **A profile is made of a record by completing it.** -/
theorem ofRecord_eq_ok_iff_completes :
    ofRecord record source baseName = .ok profile ↔
      profile.source = source ∧
        ∃ given, HasOptions record given ∧ Completes record given baseName profile := by
  rw [ofRecord_eq_ok_iff]
  constructor
  · rintro ⟨given, mainClass, options, named, rfl⟩
    refine ⟨rfl, given, ⟨options, fun value stored => ?_⟩, completes_completed named⟩
    rcases named with named | ⟨unnamed, -⟩
    · exact ⟨mainClass, Option.some.inj (stored.symm.trans named)⟩
    · cases unnamed.symm.trans stored
  · rintro ⟨rfl, given, ⟨options, -⟩, completes⟩
    exact ⟨given, profile.mainClass, options,
      completes.mainClass.imp id (And.imp id beforeHyphen_eq_iff.mpr),
      (eq_completed completes).symm⟩

theorem exists_ofRecord_iff :
    (∃ profile, ofRecord record source baseName = .ok profile) ↔
      ∃ given, HasOptions record given := by
  constructor
  · rintro ⟨profile, made⟩
    obtain ⟨-, given, has, -⟩ := ofRecord_eq_ok_iff_completes.mp made
    exact ⟨given, has⟩
  · rintro ⟨given, options, strings⟩
    cases named : given.find? "mainClass" with
    | none => exact ⟨_, ofRecord_of_unnamed options named source baseName⟩
    | some value =>
      obtain ⟨name, rfl⟩ := strings value named
      exact ⟨_, ofRecord_of_named options named source baseName⟩

/-- **A completed record stays as it is.** -/
theorem ofRecord_of_completes (h : Completes record given baseName profile) (source : Path)
    (baseName : String) :
    ofRecord profile.record source baseName = .ok { profile with source := source } := by
  have again : completed profile.record profile.options profile.mainClass source =
      { profile with source := source } := by
    rw [completed, SortedMap.insert_eq_self h.mainClassOption,
      SortedMap.insert_eq_self h.optionsField, SortedMap.insert_eq_self h.mainClassField]
  rw [ofRecord_of_named h.optionsField h.mainClassOption]
  exact congrArg Except.ok again

/-- **A record becomes a profile if its options name a main class by a string or not at all.**  Then
the profile completes the record, in the only way there is, and its own record becomes the same
profile again, whatever the name of its file is. -/
theorem completion_exact (record : Record) (source : Path) (baseName : String) :
    ((∃ profile, ofRecord record source baseName = .ok profile) ↔
      ∃ given, HasOptions record given) ∧
    (∀ profile, ofRecord record source baseName = .ok profile ↔
      profile.source = source ∧
        ∃ given, HasOptions record given ∧ Completes record given baseName profile) ∧
    ∀ profile, ofRecord record source baseName = .ok profile →
      ∀ source' baseName', ofRecord profile.record source' baseName' =
        .ok { profile with source := source' } := by
  refine ⟨exists_ofRecord_iff, fun profile => ofRecord_eq_ok_iff_completes, ?_⟩
  intro profile made source' baseName'
  obtain ⟨-, given, -, completes⟩ := ofRecord_eq_ok_iff_completes.mp made
  exact ofRecord_of_completes completes source' baseName'

/-- A record with a main class at the top that is no string, and with none in its options. -/
def conflictingRecord : Record :=
  .ofList [("threads", .int 8), ("mainClass", .int 3),
    ("options", .record (SortedMap.ofList [("level", .int 1)]))]

theorem conflict_resolved :
    ∃ profile, ofRecord conflictingRecord ⟨"runs/Crypt-4.py"⟩ "Crypt-4.py" = .ok profile ∧
      profile.mainClass = "Crypt" ∧
      ofRecord profile.record ⟨"copy"⟩ "copy" = .ok { profile with source := ⟨"copy"⟩ } := by
  obtain ⟨-, -, again⟩ := completion_exact conflictingRecord ⟨"runs/Crypt-4.py"⟩ "Crypt-4.py"
  have made : ofRecord conflictingRecord ⟨"runs/Crypt-4.py"⟩ "Crypt-4.py" =
      .ok (completed conflictingRecord (SortedMap.ofList [("level", .int 1)]) "Crypt"
        ⟨"runs/Crypt-4.py"⟩) := rfl
  exact ⟨_, made, rfl, again _ made ⟨"copy"⟩ "copy"⟩

end Profile

end DumpDigest
