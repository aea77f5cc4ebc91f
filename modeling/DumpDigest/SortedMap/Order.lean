import DumpDigest.SortedMap.Basic

/-! # The order of maps

Maps are compared entry by entry, the keys before the values; a map that another one continues comes
first. Two maps of equal rank are equal, because a map is determined by the list of its entries, so
that maps may themselves be keys.
-/

universe u v

namespace DumpDigest.Ascending

variable {κ : Type u} {ν : Type v} [Ord κ]

/-- **A map is determined by its entries.** -/
theorem toList_injective {bound : Option κ} {first second : Ascending κ ν bound}
    (h : first.toList = second.toList) : first = second := by
  induction first with
  | nil =>
    cases second with
    | nil => rfl
    | cons => simp [toList] at h
  | cons key value follows rest ih =>
    cases second with
    | nil => simp [toList] at h
    | cons key' value' follows' rest' =>
      simp only [toList, List.cons.injEq, Prod.mk.injEq] at h
      obtain ⟨⟨rfl, rfl⟩, tails⟩ := h
      rw [ih tails]

variable [Ord ν] {bound : Option κ}

/-- The order of entries: by key, then by value. -/
def compareEntries : κ × ν → κ × ν → Ordering :=
  (lexOrd : Ord (κ × ν)).compare

instance : Ord (Ascending κ ν bound) where
  compare first second := List.compareLex compareEntries first.toList second.toList

instance [Std.TransOrd κ] [Std.TransOrd ν] : Std.TransOrd (Ascending κ ν bound) :=
  have : Std.TransCmp (compareEntries (κ := κ) (ν := ν)) :=
    inferInstanceAs (Std.TransCmp (lexOrd : Ord (κ × ν)).compare)
  have lists : Std.TransCmp (List.compareLex (compareEntries (κ := κ) (ν := ν))) := inferInstance
  { eq_swap := lists.eq_swap, isLE_trans := lists.isLE_trans }

instance [Std.LawfulEqOrd κ] [Std.LawfulEqOrd ν] : Std.LawfulEqOrd (Ascending κ ν bound) :=
  have : Std.LawfulEqCmp (compareEntries (κ := κ) (ν := ν)) :=
    inferInstanceAs (Std.LawfulEqCmp (lexOrd : Ord (κ × ν)).compare)
  have lists : Std.LawfulEqCmp (List.compareLex (compareEntries (κ := κ) (ν := ν))) :=
    inferInstance
  { compare_self := lists.compare_self
    eq_of_compare := fun h => toList_injective (lists.eq_of_compare h) }

end DumpDigest.Ascending
