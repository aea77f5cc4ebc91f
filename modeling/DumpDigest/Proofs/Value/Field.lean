import DumpDigest.Proofs.Result
import DumpDigest.Value.Field

/-!
# What reading a field finds

A field is read as something when it is there and its value is that thing (`view_eq_ok_iff`).
-/

namespace DumpDigest.Record

open Result

variable {record : Record} {key : String}

theorem require_eq_ok_iff {value : Value} :
    record.require key = .ok value ↔ record.find? key = some value := by
  rw [require]
  cases record.find? key with
  | none => simp
  | some stored => simp

theorem view_eq_ok_iff {α : Type} {shape : Shape} {as? : Value → Option α} {content : α} :
    record.view shape as? key = .ok content ↔
      ∃ value, record.find? key = some value ∧ as? value = some content := by
  rw [view, bind_eq_ok_iff]
  refine exists_congr fun value => and_congr require_eq_ok_iff ?_
  cases as? value with
  | none => simp [throw, throwThe, MonadExceptOf.throw]
  | some found => simp [pure, Except.pure]

theorem int_eq_ok_iff {number : Int64} :
    record.int key = .ok number ↔ record.find? key = some (.int number) := by
  rw [int, view_eq_ok_iff]
  constructor
  · rintro ⟨value, stored, is⟩
    cases value with
    | int found => rw [stored, Option.some.inj is]
    | _ => cases is
  · exact fun stored => ⟨_, stored, rfl⟩

theorem string_eq_ok_iff {text : String} :
    record.string key = .ok text ↔ record.find? key = some (.string text) := by
  rw [string, view_eq_ok_iff]
  constructor
  · rintro ⟨value, stored, is⟩
    cases value with
    | string found => rw [stored, Option.some.inj is]
    | _ => cases is
  · exact fun stored => ⟨_, stored, rfl⟩

theorem number_eq_ok_iff {number : Float} :
    record.number key = .ok number ↔
      record.find? key = some (.float number) ∨
        ∃ integer, record.find? key = some (.int integer) ∧ Float.ofInt integer.toInt = number := by
  rw [Record.number, view_eq_ok_iff]
  constructor
  · rintro ⟨value, stored, is⟩
    cases value with
    | float found => exact .inl (by rw [stored, Option.some.inj is])
    | int found => exact .inr ⟨found, stored, Option.some.inj is⟩
    | _ => cases is
  · rintro (stored | ⟨integer, stored, rfl⟩)
    · exact ⟨_, stored, rfl⟩
    · exact ⟨_, stored, rfl⟩

theorem distribution_eq_ok_iff {counts : Distribution} :
    record.distribution key = .ok counts ↔
      record.find? key = some (.distribution counts) ∨
        record.find? key = some (.record .nil) ∧ counts = .empty := by
  rw [distribution, view_eq_ok_iff]
  constructor
  · rintro ⟨value, stored, is⟩
    cases value with
    | distribution found => exact .inl (by rw [stored, Option.some.inj is])
    | record fields =>
      cases fields with
      | nil => exact .inr ⟨stored, (Option.some.inj is).symm⟩
      | cons _ _ _ _ => cases is
    | _ => cases is
  · rintro (stored | ⟨stored, rfl⟩)
    · exact ⟨_, stored, rfl⟩
    · exact ⟨_, stored, rfl⟩

end DumpDigest.Record
