import Mathlib.Data.List.TakeWhile

/-!
# What stands before a mark

The front of a text at a mark is what stands before the first one, or the whole text if the mark
does not occur in it.  `takeWhile_eq_iff_front` says that this is what walking up to the mark gives,
and `parts_of_split` gives both sides of a text that is known to be split at its first mark.
-/

namespace DumpDigest.Text

variable {mark : Char} {text left right front : List Char}

theorem differs_of_not_mem (free : mark ∉ left) : ∀ c ∈ left, decide (c ≠ mark) = true := by
  intro c member
  refine decide_eq_true ?_
  rintro rfl
  exact free member

theorem parts_of_split (split : text = left ++ mark :: right) (first : mark ∉ left) :
    text.takeWhile (· ≠ mark) = left ∧ text.dropWhile (· ≠ mark) = mark :: right := by
  subst split
  rw [List.takeWhile_append_of_pos (differs_of_not_mem first),
    List.dropWhile_append_of_pos (differs_of_not_mem first), List.takeWhile_cons_of_neg (by simp),
    List.dropWhile_cons_of_neg (by simp)]
  exact ⟨List.append_nil left, rfl⟩

/-- What stands before the first mark of a text, or the whole text if there is none. -/
def Front (mark : Char) (text front : List Char) : Prop :=
  mark ∉ front ∧ (text = front ∨ ∃ rest, text = front ++ mark :: rest)

theorem takeWhile_eq_iff_front : text.takeWhile (· ≠ mark) = front ↔ Front mark text front := by
  by_cases present : mark ∈ text
  · obtain ⟨left, right, split, first⟩ := List.eq_append_cons_of_mem present
    rw [(parts_of_split split first).1]
    constructor
    · rintro rfl
      exact ⟨first, .inr ⟨right, split⟩⟩
    · rintro ⟨free, rfl | ⟨rest, split'⟩⟩
      · exact absurd present free
      · rw [← (parts_of_split split first).1, (parts_of_split split' free).1]
  · rw [List.takeWhile_eq_self_iff.mpr (differs_of_not_mem present)]
    constructor
    · rintro rfl
      exact ⟨present, .inl rfl⟩
    · rintro ⟨-, whole | ⟨rest, rfl⟩⟩
      · exact whole
      · exact absurd (by simp) present

end DumpDigest.Text
