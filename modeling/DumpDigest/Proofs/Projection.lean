import DumpDigest.Grouping
import DumpDigest.Proofs.Result
import DumpDigest.Proofs.Value.Field

/-!
# Fields of runs by row and by column

Some fields of some runs can be read run by run (`rows`) or field by field (`column`).  The two ways
go through the same places in a different order.  When every place is filled they find the same
values, since either finds at a place what the run of the place stores in its field
(`entryAt_of_rows`, `getElem?_of_column`).

When a place is empty both fail, but reading run by run tells more: it fails at the first run that
lacks a field of the list, with the first such field (`rows_eq_error_iff`).  `projections_agree` is
the main result.
-/

namespace DumpDigest

open Result

variable {fields : List String} {profiles : List Profile} {profile : Profile} {field : String}

/-- Whether the record of a run has a field. -/
def Profile.Has (profile : Profile) (field : String) : Prop :=
  ∃ value, profile.record.find? field = some value

theorem Profile.exists_require_iff :
    (∃ value, profile.record.require field = .ok value) ↔ profile.Has field :=
  exists_congr fun _ => Record.require_eq_ok_iff

theorem Profile.require_eq_error_iff {error : FieldError} :
    profile.record.require field = .error error ↔ ¬ profile.Has field ∧ error = .missing field := by
  rw [Record.require, Profile.Has]
  cases profile.record.find? field with
  | some value => simp
  | none => simp [eq_comm]

theorem Profile.toOption_require (profile : Profile) (field : String) :
    (profile.record.require field).toOption = profile.record.find? field := by
  rw [Record.require]
  cases profile.record.find? field with
  | some value => rfl
  | none => rfl

/-! ### Places -/

/-- The value in a row of a table, at a place of the row. -/
def entryAt (table : List (List Value)) (i j : Nat) : Option Value :=
  table[i]?.bind fun tuple => tuple[j]?

/-- What a run stores in a field, both given by their places. -/
def storedAt (profiles : List Profile) (fields : List String) (i j : Nat) : Option Value :=
  profiles[i]?.bind fun profile => fields[j]?.bind fun field => profile.record.find? field

theorem getElem?_of_column {values : List Value} (read : column field profiles = .ok values)
    (i : Nat) : values[i]? = profiles[i]?.bind fun profile => profile.record.find? field := by
  rw [getElem?_of_mapM read]
  simp only [Profile.toOption_require]

/-- **Row by row the values are found that are stored.** -/
theorem entryAt_of_rows {tuples : List (List Value)} (read : rows fields profiles = .ok tuples)
    (i j : Nat) : entryAt tuples i j = storedAt profiles fields i j := by
  rw [entryAt, storedAt, getElem?_of_mapM read]
  cases here : profiles[i]? with
  | none => rfl
  | some profile =>
    obtain ⟨tuple, made⟩ := exists_mapM_eq_ok_iff.mp ⟨tuples, read⟩ profile
      (List.mem_of_getElem? here)
    have there := getElem?_of_mapM made j
    simp only [Profile.toOption_require] at there
    simpa [made, Except.toOption] using there

/-! ### When values are missing -/

/-- Whether this is the first field of a list that a run lacks. -/
def Profile.FirstLacking (profile : Profile) (fields : List String) (field : String) : Prop :=
  ∃ before after, fields = before ++ field :: after ∧ (∀ other ∈ before, profile.Has other) ∧
    ¬ profile.Has field

/-- Whether this is the first run that lacks a field of a list, and this the first field of the list
that it lacks. -/
def FirstGap (fields : List String) (profiles : List Profile) (profile : Profile)
    (field : String) : Prop :=
  ∃ before after, profiles = before ++ profile :: after ∧
    (∀ earlier ∈ before, ∀ other ∈ fields, earlier.Has other) ∧ profile.FirstLacking fields field

theorem exists_row_iff :
    (∃ tuple, row fields profile = .ok tuple) ↔ ∀ field ∈ fields, profile.Has field := by
  rw [row, exists_mapM_eq_ok_iff]
  simp only [Profile.exists_require_iff]

theorem row_eq_error_iff {error : FieldError} :
    row fields profile = .error error ↔
      ∃ field, profile.FirstLacking fields field ∧ error = .missing field := by
  rw [row, mapM_eq_error_iff]
  simp only [Profile.exists_require_iff, Profile.require_eq_error_iff]
  constructor
  · rintro ⟨before, field, after, split, fine, lacks, rfl⟩
    exact ⟨field, ⟨before, after, split, fine, lacks⟩, rfl⟩
  · rintro ⟨field, ⟨before, after, split, fine, lacks⟩, rfl⟩
    exact ⟨before, field, after, split, fine, lacks, rfl⟩

theorem exists_rows_iff :
    (∃ tuples, rows fields profiles = .ok tuples) ↔
      ∀ profile ∈ profiles, ∀ field ∈ fields, profile.Has field := by
  rw [rows, exists_mapM_eq_ok_iff]
  simp only [exists_row_iff]

theorem exists_column_iff :
    (∃ values, column field profiles = .ok values) ↔ ∀ profile ∈ profiles, profile.Has field := by
  rw [column, exists_mapM_eq_ok_iff]
  simp only [Profile.exists_require_iff]

/-- **Row by row the first gap is told**, which is the one that the row of its run tells. -/
theorem rows_eq_error_iff {error : FieldError} :
    rows fields profiles = .error error ↔
      ∃ profile field, FirstGap fields profiles profile field ∧ error = .missing field ∧
        row fields profile = .error error := by
  rw [rows, mapM_eq_error_iff]
  simp only [exists_row_iff]
  constructor
  · rintro ⟨before, profile, after, split, fine, fails⟩
    obtain ⟨field, lacks, is⟩ := row_eq_error_iff.mp fails
    exact ⟨profile, field, ⟨before, after, split, fine, lacks⟩, is, fails⟩
  · rintro ⟨profile, field, ⟨before, after, split, fine, -⟩, -, fails⟩
    exact ⟨before, profile, after, split, fine, fails⟩

/-! ### Agreement -/

/-- Rows of values are a table of fields of runs: there is one row for each run, with one value for
each field, and every field can be read as a column, which has at each place the value that the row
of the place has for the field. -/
structure Tabulates (fields : List String) (profiles : List Profile)
    (tuples : List (List Value)) : Prop where
  height : tuples.length = profiles.length
  width : ∀ tuple ∈ tuples, tuple.length = fields.length
  columns : ∀ j field, fields[j]? = some field →
    ∃ values, column field profiles = .ok values ∧ values.length = profiles.length ∧
      ∀ i, entryAt tuples i j = values[i]?

theorem tabulates_of_rows {tuples : List (List Value)} (read : rows fields profiles = .ok tuples) :
    Tabulates fields profiles tuples where
  height := length_of_mapM read
  width := by
    intro tuple member
    obtain ⟨profile, -, made⟩ := (mem_mapM_iff read).mp member
    exact length_of_mapM made
  columns := by
    intro j field named
    have complete := exists_rows_iff.mp ⟨tuples, read⟩
    have filled : ∀ profile ∈ profiles, profile.Has field := by
      intro profile member
      exact complete profile member field (List.mem_of_getElem? named)
    obtain ⟨values, found⟩ := exists_column_iff.mpr filled
    refine ⟨values, found, length_of_mapM found, ?_⟩
    intro i
    rw [entryAt_of_rows read, getElem?_of_column found, storedAt, named]
    simp only [Option.bind_some]

/-- **Reading fields of runs row by row and column by column agrees.**  All rows can be read exactly
if the column of every field can be, and they are then the table of the columns.  Otherwise the rows
fail at the first run that lacks one of the fields, for the first field that it lacks, which is how
the row of this run fails. -/
theorem projections_agree (fields : List String) (profiles : List Profile) :
    ((∃ tuples, rows fields profiles = .ok tuples) ↔
      ∀ field ∈ fields, ∃ values, column field profiles = .ok values) ∧
    (∀ tuples, rows fields profiles = .ok tuples → Tabulates fields profiles tuples) ∧
    ∀ error, rows fields profiles = .error error ↔
      ∃ profile field, FirstGap fields profiles profile field ∧ error = .missing field ∧
        row fields profile = .error error := by
  refine ⟨?_, ?_, ?_⟩
  · rw [exists_rows_iff]
    simp only [exists_column_iff]
    constructor
    · intro complete field named profile member
      exact complete profile member field named
    · intro filled profile member field named
      exact filled field named profile member
  · intro tuples read
    exact tabulates_of_rows read
  · intro error
    exact rows_eq_error_iff

/-- A run with some fields. -/
def fieldsRun (fields : List (String × Value)) : Profile where
  record := .ofList fields
  options := .empty
  mainClass := "Crypt"
  source := ⟨"Crypt-4.py"⟩

/-- Of two runs the first one lacks its time, and the second one its number of threads.  Asked for
threads before time the rows tell the time, since it is missing in the first run. -/
theorem later_field_of_earlier_run :
    Tabulates ["time", "threads", "time"]
      [fieldsRun [("threads", .int 4), ("time", .int 9)],
        fieldsRun [("time", .none), ("threads", .int 8)]]
      [[.int 9, .int 4, .int 9], [.none, .int 8, .none]] ∧
    rows ["threads", "time"] [fieldsRun [("threads", .int 4)], fieldsRun [("time", .int 9)]] =
      .error (.missing "time") := by
  obtain ⟨-, tabulated, -⟩ := projections_agree ["time", "threads", "time"]
    [fieldsRun [("threads", .int 4), ("time", .int 9)],
      fieldsRun [("time", .none), ("threads", .int 8)]]
  obtain ⟨-, -, fails⟩ := projections_agree ["threads", "time"]
    [fieldsRun [("threads", .int 4)], fieldsRun [("time", .int 9)]]
  refine ⟨tabulated _ rfl, (fails _).mpr ?_⟩
  refine ⟨fieldsRun [("threads", .int 4)], "time", ?_, rfl, rfl⟩
  refine ⟨[], _, rfl, by simp, ["threads"], [], rfl, ?_, ?_⟩
  · exact List.forall_mem_singleton.mpr ⟨.int 4, rfl⟩
  · rintro ⟨value, stored⟩
    cases stored

end DumpDigest
