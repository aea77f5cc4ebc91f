import DumpDigest.Proofs.SortedMap.Lookup
import DumpDigest.Report.Aggregate

/-!
# Matching

A run shows the options of a filter when it holds what the filter stores at every key
(`shows_iff`).  For a filter of one option this is the value of that option (`shows_wanting_iff`).
-/

namespace DumpDigest

theorem OptionFilter.accepts_iff {filter : OptionFilter} {options : Record} :
    filter.accepts options = true ↔
      ∀ key wanted, filter.find? key = some wanted → options.find? key = some (.string wanted) := by
  rw [accepts, List.all_eq_true]
  constructor
  · intro all key wanted stored
    have held := all (key, wanted) (Ascending.mem_of_find? stored)
    dsimp only at held
    split at held
    · next actual found =>
      rw [found, eq_of_beq held]
    · cases held
  · rintro all ⟨key, wanted⟩ member
    have held := all key wanted (Ascending.find?_of_mem member)
    dsimp only
    rw [held]
    exact beq_self_eq_true wanted

namespace Profile

variable {profile : Profile}

theorem option?_eq_some_iff {key value : String} :
    profile.option? key = some value ↔ profile.options.find? key = some (.string value) := by
  rw [option?, Option.bind_eq_some_iff]
  constructor
  · rintro ⟨stored, found, text⟩
    cases stored with
    | string actual => rw [found, Option.some.inj text]
    | _ => cases text
  · intro found
    exact ⟨.string value, found, rfl⟩

/-- **A run shows a filter** when each of its options has the value that the filter stores. -/
theorem shows_iff {filter : OptionFilter} :
    profile.shows filter = true ↔
      ∀ key value, filter.find? key = some value → profile.option? key = some value := by
  rw [shows, OptionFilter.accepts_iff]
  simp only [option?_eq_some_iff]

theorem shows_wanting_iff {key value : String} :
    profile.shows (wanting key value) = true ↔ profile.option? key = some value := by
  have stored : ∀ other, (wanting key value).find? other =
      if compare other key = .eq then some value else none :=
    fun other => SortedMap.find?_insert .empty key value other
  rw [shows_iff]
  constructor
  · intro all
    refine all key value ?_
    rw [stored, if_pos Std.ReflCmp.compare_self]
  · intro held other text found
    rw [stored] at found
    split at found
    · next same =>
      rw [Std.LawfulEqCmp.eq_of_compare same, held, found]
    · cases found

end Profile

end DumpDigest
