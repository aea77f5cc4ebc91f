import DumpDigest.Proofs.SortedMap.Lookup

/-!
# Taking an entry out of a map

`toList_erase` says what is left when the entry of a key is taken out: all others, in order.  If the
map stores something at the key, its entries are the one and those that are left
(`perm_erase`); if not, nothing changes (`toList_erase_of_find?_eq_none`).
-/

universe u v

namespace DumpDigest.Ascending

variable {κ : Type u} {ν : Type v} [Ord κ] [Std.TransOrd κ] {bound : Option κ}

theorem toList_weaken {key : κ} (follows : Follows bound key) (map : Ascending κ ν (some key)) :
    (map.weaken follows).toList = map.toList := by
  cases map <;> rfl

theorem erase_cons_of_eq {wanted key : κ} (order : compare wanted key = .eq) (value : ν)
    (follows : Follows bound key) (rest : Ascending κ ν (some key)) :
    (cons key value follows rest).erase wanted = rest.weaken follows := by
  rw [erase, if_pos order]

theorem erase_cons_of_ne {wanted key : κ} (order : compare wanted key ≠ .eq) (value : ν)
    (follows : Follows bound key) (rest : Ascending κ ν (some key)) :
    (cons key value follows rest).erase wanted = cons key value follows (rest.erase wanted) := by
  rw [erase, if_neg order]

/-- **Taking out the entry of a key** leaves the entries with other keys. -/
theorem toList_erase (wanted : κ) (map : Ascending κ ν bound) :
    (map.erase wanted).toList = map.toList.filter fun entry => compare wanted entry.1 ≠ .eq := by
  induction map with
  | nil => rfl
  | cons key value follows rest ih =>
    by_cases order : compare wanted key = .eq
    · have others : ∀ entry ∈ rest.toList, compare wanted entry.1 ≠ .eq := by
        intro entry member
        rw [Std.TransCmp.congr_left order, compare_of_mem_rest rest member]
        decide
      rw [erase_cons_of_eq order, toList_weaken, toList,
        List.filter_cons_of_neg (by simp [order]), List.filter_eq_self.mpr]
      exact fun entry member => decide_eq_true (others entry member)
    · rw [erase_cons_of_ne order, toList, ih, toList, List.filter_cons_of_pos (by simp [order])]

variable [Std.LawfulEqOrd κ] {map : Ascending κ ν bound} {wanted : κ}

theorem toList_erase_of_find?_eq_none (absent : map.find? wanted = none) :
    (map.erase wanted).toList = map.toList := by
  rw [toList_erase, List.filter_eq_self]
  refine fun entry member => decide_eq_true fun order => ?_
  obtain rfl := Std.LawfulEqCmp.eq_of_compare order
  cases absent.symm.trans (find?_of_mem member)

theorem perm_erase {value : ν} (stored : map.find? wanted = some value) :
    map.toList.Perm ((wanted, value) :: (map.erase wanted).toList) := by
  induction map with
  | nil => cases stored
  | cons key other follows rest ih =>
    rw [find?_cons] at stored
    by_cases order : compare wanted key = .eq
    · rw [if_pos order] at stored
      obtain rfl := Option.some.inj stored
      obtain rfl := Std.LawfulEqCmp.eq_of_compare order
      rw [erase_cons_of_eq order, toList_weaken]
      exact List.Perm.refl _
    · rw [if_neg order] at stored
      rw [erase_cons_of_ne order]
      exact ((ih stored).cons (key, other)).trans (List.Perm.swap ..)

end DumpDigest.Ascending
