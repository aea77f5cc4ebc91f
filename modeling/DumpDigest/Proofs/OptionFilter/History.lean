import DumpDigest.Proofs.OptionFilter.Matching
import DumpDigest.Proofs.SortedMap.Lookup
import Mathlib.Data.Finset.Card
import Mathlib.Data.Finset.Dedup

/-!
# Filters and how they came about

A filter is made of pairs, and pairs are stored in it later, one at a time or several at once.  Of
such a history only the writes matter, which are the pairs since the filter was last made anew:
every operation keeps the filter the map of the writes (`apply_ofList`), and so does every history
(`run_eq_ofList`).  The rest is said of writes.  What a filter stores at a key is the last write to
it, and everything else about a filter follows from what it stores.

A filter that is extended by another one is matched in two parts (`accepts_extend_iff`): the other
filter must be matched, and of the first one the keys that the other one leaves alone.
`filters_by_last_writes` is the main result.
-/

namespace DumpDigest.OptionFilter

/-! ### Histories -/

/-- A step in the making of a filter. -/
inductive Operation where
  /-- The filter of some pairs, whatever there was before. -/
  | fromPairs (pairs : List (String × String))
  /-- A pair stored in the filter. -/
  | insert (key value : String)
  /-- A pair stored in the filter, which is handed on. -/
  | adding (key value : String)
  /-- Several pairs stored in the filter one after the other. -/
  | extend (pairs : List (String × String))

namespace Operation

/-- The filter behind an operation. -/
def apply (filter : OptionFilter) : Operation → OptionFilter
  | fromPairs pairs => .ofList pairs
  | insert key value | adding key value => SortedMap.insert filter key value
  | extend pairs => SortedMap.extend filter pairs

/-- The writes behind an operation. -/
def note (writes : List (String × String)) : Operation → List (String × String)
  | fromPairs pairs => pairs
  | insert key value | adding key value => writes ++ [(key, value)]
  | extend pairs => writes ++ pairs

end Operation

/-- The filter that a history makes, beginning with the empty one. -/
def run (operations : List Operation) : OptionFilter :=
  operations.foldl Operation.apply .empty

/-- The writes of a history. -/
def writes (operations : List Operation) : List (String × String) :=
  operations.foldl Operation.note []

theorem ofList_append (first second : List (String × String)) :
    SortedMap.ofList (first ++ second) = (SortedMap.ofList first).extend second := by
  simp only [SortedMap.ofList, SortedMap.extend, List.foldl_append]

/-- **An operation keeps a filter the map of its writes.** -/
theorem apply_ofList (operation : Operation) (pairs : List (String × String)) :
    operation.apply (.ofList pairs) = .ofList (operation.note pairs) := by
  cases operation with
  | fromPairs others => rfl
  | insert key value => exact (ofList_append pairs [(key, value)]).symm
  | adding key value => exact (ofList_append pairs [(key, value)]).symm
  | extend others => exact (ofList_append pairs others).symm

/-- **A history makes the map of its writes.** -/
theorem run_eq_ofList (operations : List Operation) :
    run operations = .ofList (writes operations) := by
  have steps : ∀ pairs, operations.foldl Operation.apply (.ofList pairs) =
      .ofList (operations.foldl Operation.note pairs) := by
    induction operations with
    | nil =>
      intro pairs
      rfl
    | cons operation operations ih =>
      intro pairs
      rw [List.foldl_cons, List.foldl_cons, apply_ofList]
      exact ih _
  exact steps []

/-! ### What remains of writes -/

/-- Whether a value was the last one written to a key. -/
def LastWrite (writes : List (String × String)) (key value : String) : Prop :=
  ∃ before after, writes = before ++ (key, value) :: after ∧ ∀ later ∈ after, later.1 ≠ key

variable {pairs : List (String × String)} {key value : String}

theorem find?_ofList_eq_some_iff :
    (SortedMap.ofList pairs).find? key = some value ↔ LastWrite pairs key value := by
  rw [SortedMap.find?_ofList, List.lookup_eq_some_iff]
  constructor
  · rintro ⟨after, before, split, others⟩
    refine ⟨before.reverse, after.reverse, ?_, ?_⟩
    · simpa using congrArg List.reverse split
    · intro later member
      have differ := others later (List.mem_reverse.mp member)
      exact Ne.symm (bne_iff_ne.mp differ)
  · rintro ⟨before, after, rfl, others⟩
    refine ⟨after.reverse, before.reverse, by simp, ?_⟩
    intro later member
    exact bne_iff_ne.mpr (others later (List.mem_reverse.mp member)).symm

theorem find?_ofList_eq_none_iff :
    (SortedMap.ofList pairs).find? key = none ↔ ∀ write ∈ pairs, write.1 ≠ key := by
  rw [SortedMap.find?_ofList, List.lookup_eq_none_iff]
  simp only [List.mem_reverse, bne_iff_ne, ne_comm]

theorem mem_toList_iff {filter : OptionFilter} :
    (key, value) ∈ filter.toList ↔ filter.find? key = some value :=
  ⟨Ascending.find?_of_mem, Ascending.mem_of_find?⟩

theorem mem_keys_iff {filter : OptionFilter} :
    key ∈ filter.keys ↔ filter.find? key ≠ none := by
  rw [Ascending.keys, List.mem_map, Option.ne_none_iff_exists']
  constructor
  · rintro ⟨⟨_, value⟩, member, rfl⟩
    exact ⟨value, mem_toList_iff.mp member⟩
  · rintro ⟨value, stored⟩
    exact ⟨(key, value), mem_toList_iff.mpr stored, rfl⟩

theorem keys_ascending (filter : OptionFilter) : filter.keys.Pairwise (· < ·) := by
  rw [Ascending.keys, List.pairwise_map]
  exact (Ascending.pairwise_toList filter).imp compareOfLessAndEq_eq_lt.mp

/-- A filter is what remains of writes: it stores at each key the last value written to it, and
nothing at other keys; it lists every key that was written to once, in ascending order and with that
value; and its size is the number of these keys. -/
structure RemainsOf (filter : OptionFilter) (writes : List (String × String)) : Prop where
  stored : ∀ key value, filter.find? key = some value ↔ LastWrite writes key value
  absent : ∀ key, filter.find? key = none ↔ ∀ write ∈ writes, write.1 ≠ key
  ascending : filter.keys.Pairwise (· < ·)
  keys : ∀ key, key ∈ filter.keys ↔ ∃ write ∈ writes, write.1 = key
  entries : ∀ key value, (key, value) ∈ filter.toList ↔ LastWrite writes key value
  size : filter.size = (writes.map Prod.fst).toFinset.card

theorem remainsOf_ofList (pairs : List (String × String)) :
    RemainsOf (SortedMap.ofList pairs) pairs := by
  have keys : ∀ key, key ∈ (SortedMap.ofList pairs).keys ↔ ∃ write ∈ pairs, write.1 = key := by
    intro key
    rw [mem_keys_iff, ne_eq, find?_ofList_eq_none_iff]
    simp
  refine ⟨?_, ?_, keys_ascending _, keys, ?_, ?_⟩
  · intro key value
    exact find?_ofList_eq_some_iff
  · intro key
    exact find?_ofList_eq_none_iff
  · intro key value
    rw [mem_toList_iff, find?_ofList_eq_some_iff]
  · -- The keys are listed without repetition, so they are as many as the entries.
    have distinct : (SortedMap.ofList pairs).keys.Nodup := by
      refine (keys_ascending _).imp ?_
      rintro key _ below rfl
      exact String.lt_irrefl key below
    have same : (SortedMap.ofList pairs).keys.toFinset = (pairs.map Prod.fst).toFinset := by
      ext key
      rw [List.mem_toFinset, List.mem_toFinset, keys, List.mem_map]
    rw [← same, List.toFinset_card_of_nodup distinct, Ascending.keys, List.length_map,
      Ascending.size]

/-! ### Equal filters -/

/-- **Filters are equal if they store the same.** -/
theorem eq_iff_find? {first second : OptionFilter} :
    first = second ↔ ∀ key, first.find? key = second.find? key := by
  constructor
  · rintro rfl key
    rfl
  · intro same
    exact Ascending.ext_find? same

theorem compare_eq_iff {first second : OptionFilter} :
    compare first second = .eq ↔ ∀ key, first.find? key = second.find? key := by
  rw [Std.LawfulEqCmp.compare_eq_iff_eq, eq_iff_find?]

/-! ### Matching -/

theorem find?_extend_toList (filter further : OptionFilter) (key : String) :
    (SortedMap.extend filter further.toList).find? key =
      (further.find? key).or (filter.find? key) := by
  rw [SortedMap.find?_extend, ← Ascending.find?_eq_lookup]

/-- **A filter that another one extends is matched in two parts.** -/
theorem accepts_extend_iff {filter further : OptionFilter} {options : Record} :
    accepts (SortedMap.extend filter further.toList) options = true ↔
      further.accepts options = true ∧
        ∀ key value, filter.find? key = some value → further.find? key = none →
          options.find? key = some (.string value) := by
  simp only [accepts_iff, find?_extend_toList]
  constructor
  · intro held
    refine ⟨?_, ?_⟩
    · intro key value wanted
      exact held key value (by rw [wanted, Option.some_or])
    · intro key value wanted left
      exact held key value (by rw [left, wanted, Option.none_or])
  · rintro ⟨furtherHeld, leftHeld⟩ key value wanted
    cases later : further.find? key with
    | some other =>
      rw [later, Option.some_or] at wanted
      exact furtherHeld key value (later.trans wanted)
    | none =>
      rw [later, Option.none_or] at wanted
      exact leftHeld key value wanted later

/-- **With one more key a filter matches no more options than before.** -/
theorem accepts_of_insert {filter : OptionFilter} {options : Record}
    (new : filter.find? key = none)
    (held : accepts (SortedMap.insert filter key value) options = true) :
    filter.accepts options = true := by
  rw [accepts_iff] at held ⊢
  intro other wanted stored
  have differ : other ≠ key := by
    rintro rfl
    rw [new] at stored
    cases stored
  refine held other wanted ?_
  rw [SortedMap.find?_insert_of_ne filter value differ, stored]

/-- **A filter is known by the last writes of its history.**  Whatever operations have made a
filter, it is what remains of their writes.  Filters that different histories have made are equal,
and of equal rank, exactly if they store the same at every key, and then they have the same text.  A
filter that another one extends is matched exactly if the other one is and if every key that only
the first one has is, so that one more key leaves out options and lets none in. -/
theorem filters_by_last_writes :
    (∀ operations, RemainsOf (run operations) (writes operations)) ∧
    (∀ operations others,
      (run operations = run others ↔
        ∀ key, (run operations).find? key = (run others).find? key) ∧
      (compare (run operations) (run others) = .eq ↔
        ∀ key, (run operations).find? key = (run others).find? key) ∧
      ((∀ key, (run operations).find? key = (run others).find? key) →
        (run operations).display = (run others).display)) ∧
    (∀ (filter further : OptionFilter) (options : Record),
      accepts (SortedMap.extend filter further.toList) options = true ↔
        further.accepts options = true ∧
          ∀ key value, filter.find? key = some value → further.find? key = none →
            options.find? key = some (.string value)) ∧
    ∀ (filter : OptionFilter) (key value : String), filter.find? key = none →
      ∀ options : Record, accepts (SortedMap.insert filter key value) options = true →
        filter.accepts options = true := by
  refine ⟨?_, ?_, ?_, ?_⟩
  · intro operations
    rw [run_eq_ofList]
    exact remainsOf_ofList _
  · intro operations others
    refine ⟨eq_iff_find?, compare_eq_iff, ?_⟩
    intro same
    rw [eq_iff_find?.mpr same]
  · intro filter further options
    exact accepts_extend_iff
  · intro filter key value new options held
    exact accepts_of_insert new held

/-- Options written again and again. -/
def wanderingHistory : List Operation :=
  [.insert "traces" "true", .fromPairs [("record", "true"), ("profile", "false")],
    .insert "record" "false", .extend [("out", "a"), ("profile", "false"), ("out", "")],
    .adding "profile" "true"]

/-- The same options written once. -/
def straightHistory : List Operation :=
  [.extend [("profile", "true"), ("out", "")], .insert "record" "false"]

/-- The options of a run that the histories ask for, and one more. -/
def tracedOptions : Record :=
  .ofList [("out", .string ""), ("profile", .string "true"), ("record", .string "false"),
    ("traces", .string "false")]

theorem histories_meet :
    (run wanderingHistory).display = (run straightHistory).display ∧
      (run straightHistory).accepts tracedOptions = true ∧
      LastWrite (writes wanderingHistory) "profile" "true" := by
  obtain ⟨remains, meet, -, fewer⟩ := filters_by_last_writes
  have same : run wanderingHistory = run straightHistory := rfl
  obtain ⟨-, -, told⟩ := meet wanderingHistory straightHistory
  refine ⟨told ?_, ?_, ?_⟩
  · intro key
    rw [same]
  · exact fewer (run straightHistory) "traces" "false" rfl tracedOptions rfl
  · exact ((remains wanderingHistory).stored "profile" "true").mp rfl

end DumpDigest.OptionFilter
