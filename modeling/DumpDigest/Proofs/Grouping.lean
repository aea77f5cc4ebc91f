import DumpDigest.Grouping
import DumpDigest.Proofs.Result
import DumpDigest.Proofs.SortedMap.Lookup
import Mathlib.Data.List.Induction
import Mathlib.Data.List.Sort

/-!
# Groups by key

Groups are taken from a map that is built item by item.  One round puts an item at the end of its
group (`Groups.find?_push`), and what carries the proofs is `find?_grouped`, the invariant of all
rounds: at each key the map stores the items with that key, in order.  That the keys ascend is in
the type of the map.

A stable sort is known by two things: it is sorted, and it holds the items with each key in their
order (`eq_of_sorted`).  Groups that follow one another have both, so they are the stable sort of
the items (`flatMap_partition`).  `groups_are_stable_sort` is the main result; it also says when a
key that may fail makes the grouping fail.

Keys need no more than a total preorder: two keys are the same when they compare as equal.
-/

universe u v w

namespace DumpDigest

open Result

variable {α : Type u} {β : Type w} {κ : Type v} [Ord κ]

/-- The items with a key, in order. -/
def itemsAt (key : α → κ) (wanted : κ) (items : List α) : List α :=
  items.filter fun item => compare (key item) wanted = .eq

theorem mem_itemsAt {key : α → κ} {wanted : κ} {items : List α} {item : α} :
    item ∈ itemsAt key wanted items ↔ item ∈ items ∧ compare (key item) wanted = .eq := by
  rw [itemsAt, List.mem_filter, decide_eq_true_eq]

theorem itemsAt_cons (key : α → κ) (wanted : κ) (item : α) (items : List α) :
    itemsAt key wanted (item :: items) =
      if compare (key item) wanted = .eq then item :: itemsAt key wanted items
      else itemsAt key wanted items := by
  simp only [itemsAt, List.filter_cons, decide_eq_true_eq]

theorem itemsAt_append (key : α → κ) (wanted : κ) (items others : List α) :
    itemsAt key wanted (items ++ others) = itemsAt key wanted items ++ itemsAt key wanted others :=
  List.filter_append ..

/-- The order of items by key. -/
def keyLE (key : α → κ) (first second : α) : Bool :=
  (compare (key first) (key second)).isLE

variable [Std.TransOrd κ]

theorem itemsAt_congr (key : α → κ) {first second : κ} (same : compare first second = .eq)
    (items : List α) : itemsAt key first items = itemsAt key second items := by
  refine List.filter_congr fun item _ => ?_
  rw [Std.TransCmp.congr_right same]

/-! ### The stable sort -/

theorem keyLE_trans (key : α → κ) (first second third : α) (below : keyLE key first second = true)
    (above : keyLE key second third = true) : keyLE key first third = true :=
  Std.TransCmp.isLE_trans below above

theorem keyLE_total (key : α → κ) (first second : α) :
    (keyLE key first second || keyLE key second first) = true := by
  rw [Bool.or_eq_true]
  by_cases order : keyLE key first second = true
  · exact .inl order
  · have greater : compare (key second) (key first) = .lt := Std.OrientedCmp.lt_of_not_isLE order
    refine .inr ?_
    rw [keyLE, greater]
    rfl

theorem pairwise_itemsAt (key : α → κ) (wanted : κ) (items : List α) :
    (itemsAt key wanted items).Pairwise fun first second => keyLE key first second = true := by
  refine List.pairwise_of_forall_mem_list fun first here second there => ?_
  have same := Std.TransCmp.eq_trans (mem_itemsAt.mp here).2
    (Std.OrientedCmp.eq_symm (mem_itemsAt.mp there).2)
  rw [keyLE, same]
  rfl

theorem itemsAt_mergeSort (key : α → κ) (wanted : κ) (items : List α) :
    itemsAt key wanted (items.mergeSort (keyLE key)) = itemsAt key wanted items := by
  have within : (itemsAt key wanted items).Sublist (items.mergeSort (keyLE key)) :=
    List.sublist_mergeSort (keyLE_trans key) (keyLE_total key) (pairwise_itemsAt key wanted items)
      List.filter_sublist
  have kept := within.filter fun item => compare (key item) wanted = .eq
  have again : (itemsAt key wanted items).filter (fun item => compare (key item) wanted = .eq) =
      itemsAt key wanted items :=
    List.filter_eq_self.mpr fun item member => decide_eq_true (mem_itemsAt.mp member).2
  rw [again] at kept
  refine (kept.eq_of_length ?_).symm
  exact ((List.mergeSort_perm items (keyLE key)).filter _).length_eq.symm

/-- Sorted lists that hold the same items with the key of the first start with items of equal
keys. -/
theorem keyLE_head {key : α → κ} {first second : α} {items others : List α}
    (sorted : (second :: others).Pairwise fun one other => keyLE key one other = true)
    (same : ∀ wanted, itemsAt key wanted (first :: items) = itemsAt key wanted (second :: others)) :
    keyLE key second first = true := by
  have member : first ∈ itemsAt key (key first) (second :: others) := by
    rw [← same]
    exact mem_itemsAt.mpr ⟨List.mem_cons_self, Std.ReflCmp.compare_self⟩
  rcases List.mem_cons.mp (mem_itemsAt.mp member).1 with rfl | behind
  · exact Std.ReflCmp.isLE_rfl
  · exact (List.pairwise_cons.mp sorted).1 first behind

/-- **A stable sort is determined by the order of its keys**: two lists that are sorted by key and
hold the same items with each key in the same order are equal. -/
theorem eq_of_sorted {key : α → κ} {first second : List α}
    (sorted : first.Pairwise fun one other => keyLE key one other = true)
    (sorted' : second.Pairwise fun one other => keyLE key one other = true)
    (same : ∀ wanted, itemsAt key wanted first = itemsAt key wanted second) : first = second := by
  induction first generalizing second with
  | nil =>
    cases second with
    | nil => rfl
    | cons item items =>
      have none := same (key item)
      rw [itemsAt_cons, if_pos Std.ReflCmp.compare_self] at none
      cases none
  | cons item items ih =>
    cases second with
    | nil =>
      have none := same (key item)
      rw [itemsAt_cons, if_pos Std.ReflCmp.compare_self] at none
      cases none
    | cons item' items' =>
      have keys : compare (key item') (key item) = .eq :=
        Std.OrientedCmp.isLE_antisymm (keyLE_head sorted' same)
          (keyLE_head sorted fun wanted => (same wanted).symm)
      have heads := same (key item)
      rw [itemsAt_cons, itemsAt_cons, if_pos Std.ReflCmp.compare_self, if_pos keys] at heads
      obtain rfl := (List.cons.inj heads).1
      congr 1
      refine ih (List.pairwise_cons.mp sorted).2 (List.pairwise_cons.mp sorted').2 fun wanted => ?_
      have tails := same wanted
      rw [itemsAt_cons, itemsAt_cons] at tails
      split at tails
      · exact (List.cons.inj tails).2
      · exact tails

/-- A list is the stable sort of another one if it is sorted by key and holds the same items with
each key in the same order. -/
theorem eq_mergeSort {key : α → κ} {items sorted : List α}
    (ordered : sorted.Pairwise fun one other => keyLE key one other = true)
    (same : ∀ wanted, itemsAt key wanted sorted = itemsAt key wanted items) :
    sorted = items.mergeSort (keyLE key) := by
  refine eq_of_sorted ordered ?_ fun wanted => ?_
  · exact List.pairwise_mergeSort (keyLE_trans key) (keyLE_total key) items
  · rw [same, itemsAt_mergeSort]

/-- Items in the order of their keys, those with the same key as they were before. -/
structure StablySorted {α κ : Type} [Ord κ] (key : α → κ) (items sorted : List α) : Prop where
  perm : sorted.Perm items
  ordered : sorted.Pairwise fun one other => keyLE key one other = true
  ties : ∀ wanted, itemsAt key wanted sorted = itemsAt key wanted items

theorem stablySorted_mergeSort {α κ : Type} [Ord κ] [Std.TransOrd κ] (key : α → κ)
    (items : List α) : StablySorted key items (items.mergeSort (keyLE key)) where
  perm := List.mergeSort_perm items (keyLE key)
  ordered := List.pairwise_mergeSort (keyLE_trans key) (keyLE_total key) items
  ties wanted := itemsAt_mergeSort key wanted items

/-! ### Groups -/

/-- **One round** puts the item at the end of the group of its key and leaves the others alone. -/
theorem Groups.find?_push (groups : Groups κ α) (key : κ) (item : α) (wanted : κ) :
    (groups.push key item).find? wanted =
      if compare wanted key = .eq then some ((groups.find? key).getD [] ++ [item])
      else groups.find? wanted :=
  Ascending.find?_alter key _ (show Follows none key from trivial) _ wanted

/-- The map that groups are taken from. -/
def grouped (key : α → κ) (items : List α) : Groups κ α :=
  items.foldl (fun groups item => groups.push (key item) item) .empty

theorem partition_eq (key : α → κ) (items : List α) :
    partition key items = (grouped key items).toList := rfl

theorem grouped_concat (key : α → κ) (items : List α) (item : α) :
    grouped key (items ++ [item]) = (grouped key items).push (key item) item :=
  List.foldl_append

/-- **The map of the groups stores at each key the items with that key**, if there are any. -/
theorem find?_grouped (key : α → κ) (items : List α) (wanted : κ) :
    (grouped key items).find? wanted =
      if itemsAt key wanted items = [] then none else some (itemsAt key wanted items) := by
  induction items using List.reverseRecOn generalizing wanted with
  | nil => rfl
  | append_singleton items item ih =>
    rw [grouped_concat, Groups.find?_push, itemsAt_append, itemsAt_cons]
    by_cases same : compare wanted (key item) = .eq
    · have group : ((grouped key items).find? (key item)).getD [] =
          itemsAt key wanted items := by
        rw [ih, itemsAt_congr key same]
        split
        · next none => exact none.symm
        · rfl
      rw [if_pos same, if_pos (Std.OrientedCmp.eq_symm same), group]
      exact (if_neg (List.append_ne_nil_of_right_ne_nil _ (List.cons_ne_nil _ _))).symm
    · have differ : compare (key item) wanted ≠ .eq := fun h => same (Std.OrientedCmp.eq_symm h)
      have others : itemsAt key wanted items ++ itemsAt key wanted [] = itemsAt key wanted items :=
        List.append_nil _
      rw [if_neg same, if_neg differ, ih, others]

theorem group_of_mem {key : α → κ} {items : List α} {group : κ × List α}
    (member : group ∈ partition key items) :
    group.2 = itemsAt key group.1 items ∧ group.2 ≠ [] := by
  have stored : (grouped key items).find? group.1 = some group.2 := Ascending.find?_of_mem member
  rw [find?_grouped] at stored
  split at stored
  · cases stored
  · next some =>
    rw [← Option.some.inj stored]
    exact ⟨rfl, some⟩

theorem partition_ascending (key : α → κ) (items : List α) :
    (partition key items).Pairwise fun first second => compare first.1 second.1 = .lt :=
  Ascending.pairwise_toList (grouped key items)

theorem pairwise_flatMap_partition (key : α → κ) (items : List α) :
    ((partition key items).flatMap (·.2)).Pairwise fun first second =>
      keyLE key first second = true := by
  refine List.pairwise_flatMap.mpr ⟨fun group member => ?_, ?_⟩
  · rw [(group_of_mem member).1]
    exact pairwise_itemsAt key group.1 items
  · refine (partition_ascending key items).imp_of_mem ?_
    intro first second here there below one inFirst other inSecond
    rw [(group_of_mem here).1] at inFirst
    rw [(group_of_mem there).1] at inSecond
    have order : compare (key one) (key other) = .lt :=
      calc compare (key one) (key other)
        _ = compare first.1 (key other) := Std.TransCmp.congr_left (mem_itemsAt.mp inFirst).2
        _ = compare first.1 second.1 := Std.TransCmp.congr_right (mem_itemsAt.mp inSecond).2
        _ = .lt := below
    rw [keyLE, order]
    rfl

/-- A chain of lists holds, at the keys equal to a key, what it stores there. -/
theorem flatMap_eq_find? {bound : Option κ} (map : Ascending κ (List α) bound) (wanted : κ) :
    (map.toList.flatMap fun entry => if compare wanted entry.1 = .eq then entry.2 else []) =
      (map.find? wanted).getD [] := by
  induction map with
  | nil => rfl
  | cons key group follows rest ih =>
    rw [Ascending.toList, List.flatMap_cons, ih, Ascending.find?_cons]
    by_cases same : compare wanted key = .eq
    · rw [if_pos same, if_pos same, Ascending.find?_rest_eq_none rest (by rw [same]; decide)]
      exact List.append_nil group
    · rw [if_neg same, if_neg same, List.nil_append]

/-- The groups one after the other hold the items with a key in the order of all items. -/
theorem itemsAt_flatMap_partition (key : α → κ) (items : List α) (wanted : κ) :
    itemsAt key wanted ((partition key items).flatMap (·.2)) = itemsAt key wanted items := by
  have parts : itemsAt key wanted ((partition key items).flatMap (·.2)) =
      (partition key items).flatMap fun group =>
        if compare wanted group.1 = .eq then group.2 else [] := by
    rw [itemsAt, List.filter_flatMap]
    refine List.flatMap_congr fun group member => ?_
    split
    · next same =>
      refine List.filter_eq_self.mpr fun item inGroup => decide_eq_true ?_
      rw [(group_of_mem member).1] at inGroup
      exact Std.TransCmp.eq_trans (mem_itemsAt.mp inGroup).2 (Std.OrientedCmp.eq_symm same)
    · next differ =>
      refine List.filter_eq_nil_iff.mpr fun item inGroup equal => differ ?_
      rw [(group_of_mem member).1] at inGroup
      exact Std.TransCmp.eq_trans (Std.OrientedCmp.eq_symm (of_decide_eq_true equal))
        (mem_itemsAt.mp inGroup).2
  rw [parts, partition_eq, flatMap_eq_find?, find?_grouped]
  split
  · next none => exact none.symm
  · rfl

/-- **The groups one after the other are the stable sort of the items.** -/
theorem flatMap_partition (key : α → κ) (items : List α) :
    (partition key items).flatMap (·.2) = items.mergeSort (keyLE key) :=
  eq_mergeSort (pairwise_flatMap_partition key items) (itemsAt_flatMap_partition key items)

/-! ### Groups known by their members -/

section Lawful

variable [Std.LawfulEqOrd κ]

theorem mem_partition_iff {key : α → κ} {items group : List α} {wanted : κ} :
    (wanted, group) ∈ partition key items ↔ group = itemsAt key wanted items ∧ group ≠ [] := by
  constructor
  · exact group_of_mem
  · rintro ⟨rfl, some⟩
    have stored : (grouped key items).find? wanted = .some (itemsAt key wanted items) := by
      rw [find?_grouped, if_neg some]
    exact Ascending.mem_of_find? stored

theorem group_mem {key : α → κ} {items : List α} {item : α} (member : item ∈ items) :
    (key item, itemsAt key (key item) items) ∈ partition key items := by
  refine mem_partition_iff.mpr ⟨rfl, ?_⟩
  exact List.ne_nil_of_mem (mem_itemsAt.mpr ⟨member, Std.ReflCmp.compare_self⟩)

/-- **Items are in one group if they have one key.** -/
theorem together_iff {key : α → κ} {items : List α} {first second : α} (here : first ∈ items)
    (there : second ∈ items) :
    (∃ group ∈ partition key items, first ∈ group.2 ∧ second ∈ group.2) ↔
      key first = key second := by
  constructor
  · rintro ⟨group, member, inFirst, inSecond⟩
    rw [(group_of_mem member).1, mem_itemsAt] at inFirst inSecond
    rw [Std.LawfulEqCmp.eq_of_compare inFirst.2, Std.LawfulEqCmp.eq_of_compare inSecond.2]
  · intro same
    refine ⟨_, group_mem here, mem_itemsAt.mpr ⟨here, Std.ReflCmp.compare_self⟩,
      mem_itemsAt.mpr ⟨there, ?_⟩⟩
    rw [same]
    exact Std.ReflCmp.compare_self

/-- **Every item is in one group only.** -/
theorem existsUnique_group {key : α → κ} {items : List α} {item : α} (member : item ∈ items) :
    ∃! group, group ∈ partition key items ∧ item ∈ group.2 := by
  refine ⟨(key item, itemsAt key (key item) items),
    ⟨group_mem member, mem_itemsAt.mpr ⟨member, Std.ReflCmp.compare_self⟩⟩, ?_⟩
  rintro ⟨wanted, group⟩ ⟨listed, inside⟩
  obtain ⟨rfl, -⟩ := mem_partition_iff.mp listed
  obtain rfl := Std.LawfulEqCmp.eq_of_compare (mem_itemsAt.mp inside).2
  rfl

theorem groups_ext {first second : List (κ × List α)}
    (ascending : first.Pairwise fun one other => compare one.1 other.1 = .lt)
    (ascending' : second.Pairwise fun one other => compare one.1 other.1 = .lt)
    (same : ∀ wanted group, (wanted, group) ∈ first ↔ (wanted, group) ∈ second) :
    first = second := by
  have irrefl : Std.Irrefl fun one other : κ × List α => compare one.1 other.1 = .lt := by
    refine ⟨fun group below => ?_⟩
    have equal : compare group.1 group.1 = .eq := Std.ReflCmp.compare_self
    rw [equal] at below
    cases below
  have antisymm : Std.Antisymm fun one other : κ × List α => compare one.1 other.1 = .lt :=
    ⟨fun one other below above => absurd below (Std.OrientedCmp.not_lt_of_lt above)⟩
  exact ascending.eq_of_mem_iff ascending' fun group => same group.1 group.2

/-- **Groups of some of the items** are the groups of all with the others left out, if something is
left of each. -/
theorem partition_filter {key : α → κ} {keeps : α → Bool} {items : List α}
    (left : ∀ item ∈ items, ∃ other ∈ items, keeps other = true ∧ key other = key item) :
    partition key (items.filter keeps) =
      (partition key items).map fun group => (group.1, group.2.filter keeps) := by
  have filtered : ∀ wanted, itemsAt key wanted (items.filter keeps) =
      (itemsAt key wanted items).filter keeps := fun wanted => List.filter_comm ..
  refine groups_ext (partition_ascending key _) ?_ fun wanted group => ?_
  · exact List.pairwise_map.mpr (partition_ascending key items)
  · rw [mem_partition_iff, filtered, List.mem_map]
    constructor
    · rintro ⟨rfl, some⟩
      refine ⟨(wanted, itemsAt key wanted items), mem_partition_iff.mpr ⟨rfl, ?_⟩, rfl⟩
      intro none
      rw [none] at some
      exact some rfl
    · rintro ⟨⟨_, all⟩, member, ⟨rfl, rfl⟩⟩
      obtain ⟨whole, some⟩ := mem_partition_iff.mp member
      refine ⟨by rw [whole], ?_⟩
      -- A group has a member, and with it one that is kept.
      obtain ⟨item, inGroup⟩ := List.exists_mem_of_ne_nil _ some
      rw [whole] at inGroup ⊢
      obtain ⟨inItems, here⟩ := mem_itemsAt.mp inGroup
      obtain ⟨other, otherInItems, kept, same⟩ := left item inItems
      refine List.ne_nil_of_mem (List.mem_filter.mpr ⟨mem_itemsAt.mpr ⟨otherInItems, ?_⟩, kept⟩)
      rw [same]
      exact here

/-- **Groups of the items in another order** are those of the same keys. -/
theorem partition_of_perm {key : α → κ} {items others : List α} (perm : items.Perm others) :
    partition key others =
      (partition key items).map fun group => (group.1, itemsAt key group.1 others) := by
  refine groups_ext (partition_ascending key others) ?_ fun wanted group => ?_
  · exact List.pairwise_map.mpr (partition_ascending key items)
  · have group_perm : (itemsAt key wanted items).Perm (itemsAt key wanted others) := perm.filter _
    have some_iff : itemsAt key wanted items ≠ [] ↔ itemsAt key wanted others ≠ [] := by
      rw [← List.length_pos_iff, ← List.length_pos_iff, group_perm.length_eq]
    rw [mem_partition_iff, List.mem_map]
    constructor
    · rintro ⟨rfl, some⟩
      exact ⟨(wanted, _), mem_partition_iff.mpr ⟨rfl, some_iff.mpr some⟩, rfl⟩
    · rintro ⟨⟨_, whole⟩, member, ⟨rfl, rfl⟩⟩
      obtain ⟨rfl, some⟩ := mem_partition_iff.mp member
      exact ⟨rfl, some_iff.mp some⟩

/-- What is made group by group of the items in another order succeeds alike, if it does so for the
group of every key. -/
theorem alike_partition {α κ ε ρ : Type} [Ord κ] [Std.TransOrd κ] [Std.LawfulEqOrd κ] {key : α → κ}
    {items others : List α} {make : κ → List α → Except ε ρ} (perm : items.Perm others)
    (alike : ∀ wanted, SucceedAlike (make wanted (itemsAt key wanted items))
      (make wanted (itemsAt key wanted others))) :
    SucceedAlike ((partition key items).mapM fun group => make group.1 group.2)
      ((partition key others).mapM fun group => make group.1 group.2) := by
  rw [partition_of_perm perm, List.mapM_map]
  refine .mapM fun group member => ?_
  rw [(group_of_mem member).1]
  exact alike group.1

theorem partition_const (key : κ) {items : List α} (some : items ≠ []) :
    partition (fun _ => key) items = [(key, items)] := by
  refine groups_ext (partition_ascending _ _) (List.pairwise_singleton ..) fun wanted group => ?_
  rw [mem_partition_iff, List.mem_singleton, Prod.mk.injEq]
  by_cases same : compare key wanted = .eq
  · have all : itemsAt (fun _ => key) wanted items = items :=
      List.filter_eq_self.mpr fun _ _ => decide_eq_true same
    rw [all]
    constructor
    · rintro ⟨rfl, -⟩
      exact ⟨(Std.LawfulEqCmp.eq_of_compare same).symm, rfl⟩
    · rintro ⟨-, rfl⟩
      exact ⟨rfl, some⟩
  · have none : itemsAt (fun _ => key) wanted items = [] :=
      List.filter_eq_nil_iff.mpr fun _ _ equal => same (of_decide_eq_true equal)
    rw [none]
    constructor
    · rintro ⟨rfl, absurd⟩
      exact (absurd rfl).elim
    · rintro ⟨rfl, -⟩
      exact (same Std.ReflCmp.compare_self).elim

end Lawful

/-! ### Two kinds of items -/

/-- **Items split by a predicate** are the items of two kinds, where the predicate tells the kinds
apart. -/
theorem bisect_eq_filter {α γ : Type} [DecidableEq γ] {holds : α → Bool} {kind : α → γ}
    {first second : γ} (differ : first ≠ second)
    (told : ∀ item, kind item = if holds item then first else second) (items : List α) :
    bisect holds items =
      (items.filter fun item => kind item = first,
        items.filter fun item => kind item = second) := by
  rw [bisect, Prod.mk.injEq]
  constructor
  · refine List.filter_congr fun item _ => ?_
    cases here : holds item <;> simp [told, here, differ.symm]
  · refine List.filter_congr fun item _ => ?_
    cases here : holds item <;> simp [told, here, differ]

/-! ### Keys that may fail -/

/-- The first item whose key cannot be taken, and why. -/
def FirstFailure {α κ ε : Type} (key : α → Except ε κ) (items : List α) (error : ε) : Prop :=
  ∃ before item after, items = before ++ item :: after ∧
    (∀ earlier ∈ before, ∃ result, key earlier = .ok result) ∧ key item = .error error

section Fallible

variable {α κ ε : Type} [Ord κ] [Std.TransOrd κ] {key : α → Except ε κ} {items : List α}

/-- An item with its key, if that can be taken. -/
def keyed (key : α → Except ε κ) (item : α) : Except ε (κ × α) :=
  (·, item) <$> key item

theorem Groups.tryPush_eq (groups : Groups κ α) (item : α) :
    groups.tryPush key item = (fun pair => groups.push pair.1 pair.2) <$> keyed key item := by
  rw [tryPush, keyed, Functor.map_map]

/-- **All rounds** take the keys of the items one after the other, as far as they can be taken, and
put the items into their groups. -/
theorem foldlM_tryPush (groups : Groups κ α) (items : List α) :
    items.foldlM (Groups.tryPush key) groups =
      List.foldl (fun groups pair => groups.push pair.1 pair.2) groups <$>
        items.mapM (keyed key) := by
  rw [← foldlM_eq_map_mapM]
  congr
  funext groups item
  exact groups.tryPush_eq item

theorem tryPartition_eq_ok {total : α → κ} (taken : ∀ item ∈ items, key item = .ok (total item)) :
    tryPartition key items = .ok (partition total items) := by
  have pairs : items.mapM (keyed key) = .ok (items.map fun item => (total item, item)) := by
    refine mapM_eq_ok_iff.mpr (List.forall₂_map_right_iff.mpr (List.forall₂_same.mpr ?_))
    intro item member
    rw [keyed, taken item member]
    rfl
  rw [tryPartition, foldlM_tryPush, pairs, partition]
  refine congrArg Except.ok (congrArg Ascending.toList ?_)
  exact List.foldl_map

/-- **A grouping that succeeds** is the one by keys that can be taken of all items. -/
theorem tryPartition_eq_ok_iff [Nonempty κ] {groups : List (κ × List α)} :
    tryPartition key items = .ok groups ↔
      ∃ total : α → κ, (∀ item ∈ items, key item = .ok (total item)) ∧
        partition total items = groups := by
  constructor
  · intro grouped
    obtain ⟨_, rounds, -⟩ := bind_eq_ok_iff.mp grouped
    rw [foldlM_tryPush] at rounds
    obtain ⟨pairs, read, -⟩ := map_eq_ok_iff.mp rounds
    have each : ∀ item ∈ items, ∃ result, key item = .ok result := by
      intro item member
      obtain ⟨_, pair⟩ := exists_mapM_eq_ok_iff.mp ⟨pairs, read⟩ item member
      obtain ⟨result, taken, -⟩ := map_eq_ok_iff.mp pair
      exact ⟨result, taken⟩
    choose! total taken using each
    rw [tryPartition_eq_ok taken] at grouped
    exact ⟨total, taken, Except.ok.inj grouped⟩
  · rintro ⟨total, taken, rfl⟩
    exact tryPartition_eq_ok taken

theorem tryPartition_eq_error_iff {error : ε} :
    tryPartition key items = .error error ↔ FirstFailure key items error := by
  rw [tryPartition, foldlM_tryPush, bind_eq_error_iff, map_eq_error_iff, mapM_eq_error_iff]
  simp only [keyed, map_eq_ok_iff, map_eq_error_iff, FirstFailure]
  constructor
  · rintro (⟨before, item, after, split, fine, fails⟩ | ⟨_, _, impossible⟩)
    · refine ⟨before, item, after, split, fun earlier member => ?_, fails⟩
      obtain ⟨_, result, taken, -⟩ := fine earlier member
      exact ⟨result, taken⟩
    · cases impossible
  · rintro ⟨before, item, after, split, fine, fails⟩
    refine .inl ⟨before, item, after, split, fun earlier member => ?_, fails⟩
    obtain ⟨result, taken⟩ := fine earlier member
    exact ⟨_, result, taken, rfl⟩

end Fallible

/-- Groups of items: the keys ascend, every group holds the items with its key in order and is not
empty, and the groups one after the other are the stable sort of the items. -/
structure StablyGrouped {α κ : Type} [Ord κ] (key : α → κ) (items : List α)
    (groups : List (κ × List α)) : Prop where
  ascending : groups.Pairwise fun first second => compare first.1 second.1 = .lt
  members : ∀ group ∈ groups, group.2 = itemsAt key group.1 items
  nonempty : ∀ group ∈ groups, group.2 ≠ []
  sorted : groups.flatMap (·.2) = items.mergeSort (keyLE key)

theorem stablyGrouped_partition {α κ : Type} [Ord κ] [Std.TransOrd κ] (key : α → κ)
    (items : List α) : StablyGrouped key items (partition key items) where
  ascending := partition_ascending key items
  members _ member := (group_of_mem member).1
  nonempty _ member := (group_of_mem member).2
  sorted := flatMap_partition key items

/-- **Grouping is stable sorting by key**, cut where the key changes.  With a key that may fail the
groups are the same if it can be taken of every item, and otherwise the first item of which it
cannot be taken decides, whatever comes after. -/
theorem groups_are_stable_sort {α κ ε : Type} [Ord κ] [Std.TransOrd κ] (items : List α) :
    (∀ key : α → κ, StablyGrouped key items (partition key items)) ∧
      ∀ key : α → Except ε κ,
        (∀ total : α → κ, (∀ item ∈ items, key item = .ok (total item)) →
          tryPartition key items = .ok (partition total items)) ∧
        ∀ error, tryPartition key items = .error error ↔ FirstFailure key items error := by
  refine ⟨fun key => ⟨partition_ascending key items, ?_, ?_, flatMap_partition key items⟩,
    fun key => ⟨fun total => tryPartition_eq_ok, fun error => tryPartition_eq_error_iff⟩⟩
  · exact fun group member => (group_of_mem member).1
  · exact fun group member => (group_of_mem member).2

/-- Numbers by remainder, and numbers of which eight and nine have none. -/
theorem remainders_grouped :
    StablyGrouped (· % 2) [5, 2, 8, 1] [(0, [2, 8]), (1, [5, 1])] ∧
      tryPartition (fun n => if n < 8 then .ok (n % 2) else .error n) [5, 9, 1, 8] =
        (.error 9 : Except Nat (List (Nat × List Nat))) := by
  have split : partition (fun n : Nat => n % 2) [5, 2, 8, 1] = [(0, [2, 8]), (1, [5, 1])] := rfl
  obtain ⟨grouped, -⟩ := @groups_are_stable_sort Nat Nat Nat _ _ [5, 2, 8, 1]
  obtain ⟨-, fallible⟩ := @groups_are_stable_sort Nat Nat Nat _ _ [5, 9, 1, 8]
  refine ⟨split ▸ grouped (· % 2), (fallible _).2 9 |>.mpr ⟨[5], 9, [1, 8], rfl, ?_, rfl⟩⟩
  exact List.forall_mem_singleton.mpr ⟨1, rfl⟩

end DumpDigest
