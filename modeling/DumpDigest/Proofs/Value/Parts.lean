import DumpDigest.Proofs.SortedMap.Lookup
import DumpDigest.Value.Basic

/-!
# The parts of a value

`Value.parts` lists a value and everything inside it, and `Value.nesting` counts how many containers
stand inside one another.  Both go through lists and records by helpers of their own; the lemmas
here say what they mean in terms of items and fields, so that no later proof opens the helpers.

`Value.inductionOnParts` is induction on values in the same terms.  `Value.Fits` is what a literal
with so many levels can stand for.
-/

namespace DumpDigest

/-- A distribution counts something, and its counts fit into signed integers. -/
def Distribution.Countable (counts : Distribution) : Prop :=
  counts.toList ≠ [] ∧ ∀ entry ∈ counts.toList, entry.2 ≤ Int64.maxValue.toUInt64

namespace Value

/-! ### Induction -/

/-- **Induction on values.**  What holds of everything directly inside a list or a record holds of
the list or the record. -/
theorem inductionOnParts {motive : Value → Prop} (none : motive .none)
    (bool : ∀ flag, motive (.bool flag)) (int : ∀ number, motive (.int number))
    (float : ∀ number, motive (.float number)) (string : ∀ text, motive (.string text))
    (list : ∀ items, (∀ item ∈ items, motive item) → motive (.list items))
    (distribution : ∀ counts, motive (.distribution counts))
    (record : ∀ fields : Record,
      (∀ field ∈ fields.toList, motive field.2) → motive (.record fields))
    (value : Value) : motive value := by
  refine Value.rec (motive_1 := motive) (motive_2 := fun items => ∀ item ∈ items, motive item)
    (motive_3 := fun _ fields => ∀ field ∈ fields.toList, motive field.2)
    none bool int float string list distribution record ?_ ?_ ?_ ?_ value
  · intro item absent
    cases absent
  · intro first others here there
    exact List.forall_mem_cons.mpr ⟨here, there⟩
  · intro bound field absent
    cases absent
  · intro bound key first follows rest here there
    exact List.forall_mem_cons.mpr ⟨here, there⟩

/-! ### Nesting -/

mutual

/-- How many containers stand inside one another. -/
def nesting : Value → Nat
  | none | bool _ | int _ | float _ | string _ => 0
  | distribution _ => 1
  | list items => itemsNesting items + 1
  | record fields => fieldsNesting fields + 1

/-- The nesting of the items of a list. -/
def itemsNesting : List Value → Nat
  | [] => 0
  | item :: items => max item.nesting (itemsNesting items)

/-- The nesting of the values of a record. -/
def fieldsNesting {bound : Option String} : Ascending String Value bound → Nat
  | .nil => 0
  | .cons _ value _ rest => max value.nesting (fieldsNesting rest)

end

theorem itemsNesting_le_iff {items : List Value} {levels : Nat} :
    itemsNesting items ≤ levels ↔ ∀ item ∈ items, item.nesting ≤ levels := by
  induction items with
  | nil => simp [itemsNesting]
  | cons item items ih => rw [itemsNesting, Nat.max_le, ih, List.forall_mem_cons]

theorem fieldsNesting_le_iff {bound : Option String} {fields : Ascending String Value bound}
    {levels : Nat} :
    fieldsNesting fields ≤ levels ↔ ∀ field ∈ fields.toList, field.2.nesting ≤ levels := by
  induction fields with
  | nil => simp [fieldsNesting, Ascending.toList]
  | cons key value follows rest ih =>
    rw [fieldsNesting, Nat.max_le, ih, Ascending.toList, List.forall_mem_cons]

theorem nesting_list_le_iff {items : List Value} {levels : Nat} :
    (list items).nesting ≤ levels + 1 ↔ ∀ item ∈ items, item.nesting ≤ levels := by
  rw [nesting, Nat.add_le_add_iff_right, itemsNesting_le_iff]

theorem nesting_record_le_iff {fields : Record} {levels : Nat} :
    (record fields).nesting ≤ levels + 1 ↔ ∀ field ∈ fields.toList, field.2.nesting ≤ levels := by
  rw [nesting, Nat.add_le_add_iff_right, fieldsNesting_le_iff]

/-! ### Parts -/

mutual

/-- A value and everything inside it. -/
def parts : Value → List Value
  | list items => list items :: itemsParts items
  | record fields => record fields :: fieldsParts fields
  | other => [other]

/-- The items of a list and everything inside them. -/
def itemsParts : List Value → List Value
  | [] => []
  | item :: items => item.parts ++ itemsParts items

/-- The values of a record and everything inside them. -/
def fieldsParts {bound : Option String} : Ascending String Value bound → List Value
  | .nil => []
  | .cons _ value _ rest => value.parts ++ fieldsParts rest

end

theorem mem_itemsParts_iff {part : Value} {items : List Value} :
    part ∈ itemsParts items ↔ ∃ item ∈ items, part ∈ item.parts := by
  induction items with
  | nil => simp [itemsParts]
  | cons item items ih =>
    simp only [itemsParts, List.mem_append, ih, List.mem_cons, exists_eq_or_imp]

theorem mem_fieldsParts_iff {part : Value} {bound : Option String}
    {fields : Ascending String Value bound} :
    part ∈ fieldsParts fields ↔ ∃ field ∈ fields.toList, part ∈ field.2.parts := by
  induction fields with
  | nil => simp [fieldsParts, Ascending.toList]
  | cons key value follows rest ih =>
    simp only [fieldsParts, List.mem_append, ih, Ascending.toList, List.mem_cons, exists_eq_or_imp]

theorem mem_parts_list_iff {part : Value} {items : List Value} :
    part ∈ (list items).parts ↔ part = list items ∨ ∃ item ∈ items, part ∈ item.parts := by
  rw [parts, List.mem_cons, mem_itemsParts_iff]

theorem mem_parts_record_iff {part : Value} {fields : Record} :
    part ∈ (record fields).parts ↔
      part = record fields ∨ ∃ field ∈ fields.toList, part ∈ field.2.parts := by
  rw [parts, List.mem_cons, mem_fieldsParts_iff]

theorem self_mem_parts (value : Value) : value ∈ value.parts := by
  cases value <;> simp [parts]

/-! ### What fits into levels -/

/-- A value nests at most `levels` containers, and all distributions inside it are countable. -/
structure Fits (levels : Nat) (value : Value) : Prop where
  nesting : value.nesting ≤ levels
  countable : ∀ counts, distribution counts ∈ value.parts → counts.Countable

theorem Fits.succ {levels : Nat} {value : Value} (h : value.Fits levels) :
    value.Fits (levels + 1) :=
  ⟨Nat.le_succ_of_le h.nesting, h.countable⟩

theorem fits_list_iff {levels : Nat} {items : List Value} :
    (list items).Fits (levels + 1) ↔ ∀ item ∈ items, item.Fits levels := by
  constructor
  · rintro ⟨nesting, countable⟩ item member
    refine ⟨nesting_list_le_iff.mp nesting item member, fun counts inside => ?_⟩
    exact countable counts (mem_parts_list_iff.mpr (.inr ⟨item, member, inside⟩))
  · intro items
    refine ⟨nesting_list_le_iff.mpr fun item member => (items item member).nesting, ?_⟩
    intro counts inside
    rcases mem_parts_list_iff.mp inside with is | ⟨item, member, inside⟩
    · cases is
    · exact (items item member).countable counts inside

theorem fits_record_iff {levels : Nat} {fields : Record} :
    (record fields).Fits (levels + 1) ↔ ∀ field ∈ fields.toList, field.2.Fits levels := by
  constructor
  · rintro ⟨nesting, countable⟩ field member
    refine ⟨nesting_record_le_iff.mp nesting field member, fun counts inside => ?_⟩
    exact countable counts (mem_parts_record_iff.mpr (.inr ⟨field, member, inside⟩))
  · intro fields
    refine ⟨nesting_record_le_iff.mpr fun field member => (fields field member).nesting, ?_⟩
    intro counts inside
    rcases mem_parts_record_iff.mp inside with is | ⟨field, member, inside⟩
    · cases is
    · exact (fields field member).countable counts inside

theorem fits_distribution_iff {levels : Nat} {counts : Distribution} :
    (distribution counts).Fits (levels + 1) ↔ counts.Countable := by
  constructor
  · rintro ⟨-, countable⟩
    exact countable counts List.mem_cons_self
  · intro countable
    refine ⟨Nat.le_add_left 1 levels, fun others inside => ?_⟩
    obtain rfl : others = counts := by simpa [parts] using inside
    exact countable

end Value

end DumpDigest
