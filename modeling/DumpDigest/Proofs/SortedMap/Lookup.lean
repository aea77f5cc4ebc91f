import DumpDigest.SortedMap.Order

/-!
# What a map stores

A map is known by what it stores at each key: `ext_find?` turns equal answers into equal maps.
`find?_insert` and `find?_extend` say what the answers are after entries have been stored one after
the other, so that `ofList` stores at a key what the last entry with that key holds; an entry that
is there already may be stored again (`insert_eq_self`).

Everything rests on `find?_eq_none_of_below`: a chain stores nothing below its first key.
-/

universe u v

namespace DumpDigest

namespace Ascending

variable {κ : Type u} {ν : Type v} [Ord κ]

theorem find?_cons {bound : Option κ} (wanted key : κ) (value : ν) (follows : Follows bound key)
    (rest : Ascending κ ν (some key)) :
    (cons key value follows rest).find? wanted =
      if compare wanted key = .eq then some value else rest.find? wanted := rfl

section Order

variable [Std.TransOrd κ]

/-- **A chain stores nothing below its first key**: nothing at a key that is less than all keys
that may start the chain. -/
theorem find?_eq_none_of_below {bound : Option κ} (map : Ascending κ ν bound) {wanted : κ}
    (below : ∀ key, Follows bound key → compare wanted key = .lt) : map.find? wanted = none := by
  induction map with
  | nil => rfl
  | cons key value follows rest ih =>
    have first : compare wanted key = .lt := below key follows
    rw [find?_cons, if_neg (by rw [first]; decide)]
    exact ih fun next above => Std.TransCmp.lt_trans first above

/-- Behind an entry nothing is stored at a key up to the entry's own. -/
theorem find?_rest_eq_none {key wanted : κ} (rest : Ascending κ ν (some key))
    (upTo : (compare wanted key).isLE) : rest.find? wanted = none :=
  find?_eq_none_of_below rest fun _ above => Std.TransCmp.lt_of_isLE_of_lt upTo above

theorem find?_alter (wanted : κ) (change : Option ν → ν) {bound : Option κ}
    (follows : Follows bound wanted) (map : Ascending κ ν bound) (key : κ) :
    (map.alter wanted change follows).find? key =
      if compare key wanted = .eq then some (change (map.find? wanted)) else map.find? key := by
  induction map with
  | nil => rfl
  | cons first value above rest ih =>
    unfold alter
    split
    · next order =>
      have absent : rest.find? wanted = none := find?_rest_eq_none rest (by rw [order]; decide)
      simp only [find?_cons, order, absent, reduceCtorEq, if_false]
      split <;> rfl
    · next order =>
      simp only [find?_cons, order, if_true, Std.TransCmp.congr_right order]
      split <;> rfl
    · next order =>
      have changed := ih (Std.OrientedCmp.lt_of_gt order)
      have apart : compare key wanted = .eq → compare key first ≠ .eq := by
        intro same
        rw [Std.TransCmp.congr_left same, order]
        decide
      simp only [find?_cons, order, reduceCtorEq, if_false]
      rw [changed]
      by_cases same : compare key wanted = .eq
      · rw [if_neg (apart same), if_pos same, if_pos same]
      · rw [if_neg same, if_neg same]

theorem find?_cons_self {bound : Option κ} (key : κ) (value : ν) (follows : Follows bound key)
    (rest : Ascending κ ν (some key)) : (cons key value follows rest).find? key = some value := by
  rw [find?_cons, if_pos Std.ReflCmp.compare_self]

theorem first_le_of_find? {bound : Option κ} {wanted key : κ} {value found : ν}
    {follows : Follows bound key} {rest : Ascending κ ν (some key)}
    (stored : (cons key value follows rest).find? wanted = some found) :
    compare wanted key ≠ .lt := by
  intro below
  rw [find?_cons, below, if_neg (by decide), find?_rest_eq_none rest (by rw [below]; decide)]
    at stored
  cases stored

/-- **A map is determined by what it stores at each key.** -/
theorem ext_find? {bound : Option κ} {first second : Ascending κ ν bound}
    (same : ∀ key, first.find? key = second.find? key) [Std.LawfulEqOrd κ] : first = second := by
  induction first with
  | nil =>
    cases second with
    | nil => rfl
    | cons key value follows rest => cases (same key).trans (find?_cons_self key value follows rest)
  | cons key value follows rest ih =>
    have stored := find?_cons_self key value follows rest
    rw [same] at stored
    cases second with
    | nil => cases stored
    | cons key' value' follows' rest' =>
      have stored' := find?_cons_self key' value' follows' rest'
      rw [← same] at stored'
      have keys : compare key key' = .eq := by
        cases order : compare key key' with
        | eq => rfl
        | lt => exact absurd order (first_le_of_find? stored)
        | gt => exact absurd (Std.OrientedCmp.lt_of_gt order) (first_le_of_find? stored')
      obtain rfl := Std.LawfulEqCmp.eq_of_compare keys
      obtain rfl := Option.some.inj (stored.symm.trans (find?_cons_self key value' follows' rest'))
      congr 1
      refine ih fun other => ?_
      have both := same other
      rw [find?_cons, find?_cons] at both
      by_cases here : compare other key = .eq
      · rw [find?_rest_eq_none rest (by rw [here]; decide),
          find?_rest_eq_none rest' (by rw [here]; decide)]
      · rwa [if_neg here, if_neg here] at both

theorem compare_of_mem_rest {key : κ} (rest : Ascending κ ν (some key)) {entry : κ × ν}
    (member : entry ∈ rest.toList) : compare key entry.1 = .lt := by
  have below : ∀ {bound : Option κ} (map : Ascending κ ν bound), entry ∈ map.toList →
      (∀ next, Follows bound next → compare key next = .lt) → compare key entry.1 = .lt := by
    intro bound map
    induction map with
    | nil =>
      intro member
      cases member
    | cons next value follows rest ih =>
      intro member below
      rcases List.mem_cons.mp member with rfl | member
      · exact below next follows
      · exact ih member fun other above => Std.TransCmp.lt_trans (below next follows) above
  exact below rest member fun _ above => above

theorem pairwise_toList {bound : Option κ} (map : Ascending κ ν bound) :
    map.toList.Pairwise fun first second => compare first.1 second.1 = .lt := by
  induction map with
  | nil => exact List.Pairwise.nil
  | cons key value follows rest ih =>
    exact List.pairwise_cons.mpr ⟨fun entry member => compare_of_mem_rest rest member, ih⟩

theorem find?_of_mem {bound : Option κ} {map : Ascending κ ν bound} {key : κ} {value : ν}
    (member : (key, value) ∈ map.toList) : map.find? key = some value := by
  induction map with
  | nil => cases member
  | cons first other follows rest ih =>
    rcases List.mem_cons.mp member with is | member
    · obtain ⟨rfl, rfl⟩ := Prod.mk.inj is
      exact find?_cons_self key value follows rest
    · have above : compare first key = .lt := compare_of_mem_rest rest member
      rw [find?_cons, if_neg (by rw [Std.OrientedCmp.gt_of_lt above]; decide), ih member]

end Order

section Equality

variable [Std.LawfulEqOrd κ]

theorem mem_of_find? {bound : Option κ} {map : Ascending κ ν bound} {key : κ} {value : ν}
    (stored : map.find? key = some value) : (key, value) ∈ map.toList := by
  induction map with
  | nil => cases stored
  | cons first other follows rest ih =>
    rw [find?_cons] at stored
    split at stored
    · next same =>
      obtain rfl := Std.LawfulEqCmp.eq_of_compare same
      obtain rfl := Option.some.inj stored
      exact List.mem_cons_self
    · exact List.mem_cons_of_mem _ (ih stored)

end Equality

section Entries

variable [Std.TransOrd κ] [Std.LawfulEqOrd κ] [BEq κ] [LawfulBEq κ]

/-- **A map stores at a key what the last of its entries with that key holds**, which is the only
one. -/
theorem find?_eq_lookup {bound : Option κ} (map : Ascending κ ν bound) (key : κ) :
    map.find? key = map.toList.reverse.lookup key := by
  induction map with
  | nil => rfl
  | cons first value follows rest ih =>
    rw [toList, List.reverse_cons, List.lookup_append, ← ih, find?_cons]
    by_cases same : compare key first = .eq
    · rw [if_pos same, find?_rest_eq_none rest (by rw [same]; decide), Option.none_or,
        Std.LawfulEqCmp.eq_of_compare same, List.lookup_cons_self]
    · have differ : (key == first) = false := by
        rw [beq_eq_false_iff_ne]
        rintro rfl
        exact same Std.ReflCmp.compare_self
      rw [if_neg same, List.lookup_cons, differ, List.lookup_nil]
      exact Option.or_none.symm

end Entries

end Ascending

namespace SortedMap

variable {κ : Type u} {ν : Type v} [Ord κ] [Std.TransOrd κ]

theorem find?_insert (map : SortedMap κ ν) (wanted : κ) (value : ν) (key : κ) :
    (map.insert wanted value).find? key =
      if compare key wanted = .eq then some value else map.find? key :=
  Ascending.find?_alter wanted _ (show Follows none wanted from trivial) map key

section Lawful

variable [Std.LawfulEqOrd κ]

theorem find?_insert_self (map : SortedMap κ ν) (key : κ) (value : ν) :
    (map.insert key value).find? key = some value := by
  rw [find?_insert, if_pos Std.ReflCmp.compare_self]

theorem find?_insert_of_ne (map : SortedMap κ ν) (value : ν) {key wanted : κ}
    (differ : key ≠ wanted) : (map.insert wanted value).find? key = map.find? key := by
  rw [find?_insert, if_neg fun same => differ (Std.LawfulEqCmp.eq_of_compare same)]

theorem insert_eq_self {map : SortedMap κ ν} {key : κ} {value : ν}
    (stored : map.find? key = some value) : map.insert key value = map := by
  refine Ascending.ext_find? fun other => ?_
  by_cases same : other = key
  · rw [same, find?_insert_self, stored]
  · rw [find?_insert_of_ne map value same]

end Lawful

variable [Std.LawfulEqOrd κ] [BEq κ] [LawfulBEq κ]

/-- After entries have been stored one after the other, a key holds what the last entry with that
key says, and otherwise what it held before. -/
theorem find?_extend (entries : List (κ × ν)) (map : SortedMap κ ν) (key : κ) :
    (map.extend entries).find? key = (entries.reverse.lookup key).or (map.find? key) := by
  induction entries generalizing map with
  | nil => rfl
  | cons entry entries ih =>
    have grown : map.extend (entry :: entries) = (map.insert entry.1 entry.2).extend entries := rfl
    rw [grown, ih, find?_insert, List.reverse_cons, List.lookup_append, Option.or_assoc,
      List.lookup_cons, List.lookup_nil]
    by_cases same : compare key entry.1 = .eq
    · obtain rfl := Std.LawfulEqCmp.eq_of_compare same
      rw [if_pos same, beq_self_eq_true]
      rfl
    · have differ : (key == entry.1) = false := by
        rw [beq_eq_false_iff_ne]
        rintro rfl
        exact same Std.ReflCmp.compare_self
      rw [if_neg same, differ]
      rfl

/-- **Of two entries with one key the later counts.** -/
theorem find?_ofList (entries : List (κ × ν)) (key : κ) :
    (ofList entries).find? key = entries.reverse.lookup key := by
  rw [ofList, find?_extend]
  exact Option.or_none

/-- A map is made of entries if it holds at each key what the last entry with that key says. -/
theorem ofList_eq {entries : List (κ × ν)} {map : SortedMap κ ν}
    (stored : ∀ key, map.find? key = entries.reverse.lookup key) : ofList entries = map := by
  refine Ascending.ext_find? fun key => ?_
  rw [find?_ofList, stored]

end SortedMap

end DumpDigest
