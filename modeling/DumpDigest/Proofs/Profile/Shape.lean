import DumpDigest.Profile.Basic
import DumpDigest.Proofs.Result

/-!
# Records as profiles

`ofRecord_eq_ok_iff` says when a record is a profile and which one: its options are a record, and
their main class, if they name one, is a string; a missing main class is made up from the base name
of the file.
-/

namespace DumpDigest

/-- The profile of a record with the given options and main class. -/
def Profile.completed (record given : Record) (mainClass : String) (source : Path) : Profile :=
  let options : Record := SortedMap.insert given "mainClass" (.string mainClass)
  { record := (record.insert "options" (.record options)).insert "mainClass" (.string mainClass)
    options := options
    mainClass := mainClass
    source := source }

theorem Profile.ofRecord_of_named {record given : Record} {name : Value}
    (options : record.find? "options" = some (.record given))
    (named : given.find? "mainClass" = some name) (source : Path) (baseName : String) :
    Profile.ofRecord record source baseName =
      match name with
      | .string mainClass => .ok (completed record given mainClass source)
      | other => .error (.mainClassNotString other.kind) := by
  simp only [ofRecord, options, pure_bind, named]
  cases name <;> rfl

theorem Profile.ofRecord_of_unnamed {record given : Record}
    (options : record.find? "options" = some (.record given))
    (unnamed : given.find? "mainClass" = none) (source : Path) (baseName : String) :
    Profile.ofRecord record source baseName =
      .ok (completed record given (beforeHyphen baseName) source) := by
  simp only [ofRecord, options, pure_bind, unnamed]
  rfl

theorem Profile.ofRecord_of_noOptions {record : Record}
    (noRecord : ∀ given, record.find? "options" ≠ some (.record given)) (source : Path)
    (baseName : String) : ∃ reason, Profile.ofRecord record source baseName = .error reason := by
  cases options : record.find? "options" with
  | none =>
    simp only [ofRecord, options]
    exact ⟨_, rfl⟩
  | some found =>
    cases found with
    | record given => exact absurd options (noRecord given)
    | _ =>
      simp only [ofRecord, options]
      exact ⟨_, rfl⟩

/-- **When a record is a profile**, and which one. -/
theorem Profile.ofRecord_eq_ok_iff {record : Record} {source : Path} {baseName : String}
    {profile : Profile} :
    Profile.ofRecord record source baseName = .ok profile ↔
      ∃ given mainClass, record.find? "options" = some (.record given) ∧
        (given.find? "mainClass" = some (.string mainClass) ∨
          given.find? "mainClass" = none ∧ beforeHyphen baseName = mainClass) ∧
        completed record given mainClass source = profile := by
  constructor
  · intro h
    by_cases options : ∃ given, record.find? "options" = some (.record given)
    · obtain ⟨given, options⟩ := options
      cases named : given.find? "mainClass" with
      | none =>
        rw [ofRecord_of_unnamed options named] at h
        exact ⟨given, _, options, .inr ⟨named, rfl⟩, Except.ok.inj h⟩
      | some name =>
        rw [ofRecord_of_named options named] at h
        cases name with
        | string mainClass => exact ⟨given, _, options, .inl named, Except.ok.inj h⟩
        | _ => cases h
    · obtain ⟨reason, refused⟩ :=
        ofRecord_of_noOptions (fun given is => options ⟨given, is⟩) source baseName
      cases refused.symm.trans h
  · rintro ⟨given, mainClass, options, (named | ⟨unnamed, rfl⟩), rfl⟩
    · rw [ofRecord_of_named options named]
    · rw [ofRecord_of_unnamed options unnamed]

end DumpDigest
