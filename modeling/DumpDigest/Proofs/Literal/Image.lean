import DumpDigest.Proofs.Literal.Acceptance
import DumpDigest.Proofs.Literal.Written

/-!
# Which values texts have

`parse_image` is the main result: a value that a text parses to nests at most 64 containers, and
every distribution in it counts something with counts that fit into signed integers; and every such
value without floats is what some text parses to.

The first half is an induction on the levels of the grammar, where `Container.held` says what a
container can stand for.  The second half writes the value as a literal.
-/

namespace DumpDigest.Literal

open Result

/-- A grammar has a piece of some meaning. -/
def Held {α : Type} (grammar : Grammar α) (value : α) : Prop :=
  ∃ text rest, grammar text value rest

theorem Elements.held {α : Type} {item : Grammar α} {close : Char} {text rest : List Char}
    {found : List α × Bool} (h : Elements item close text found rest) :
    ∀ value ∈ found.1, Held item value := by
  induction h with
  | last before first after => exact List.forall_mem_singleton.mpr ⟨_, _, first⟩
  | comma before first after closes => exact List.forall_mem_singleton.mpr ⟨_, _, first⟩
  | more before first after further ih => exact List.forall_mem_cons.mpr ⟨⟨_, _, first⟩, ih⟩

theorem Sequence.held {α : Type} {item : Grammar α} {close : Char} {text rest : List Char}
    {found : List α × Bool} (h : Sequence item close text found rest) :
    ∀ value ∈ found.1, Held item value := by
  cases h with
  | empty =>
    intro value absent
    cases absent
  | elements elements => exact elements.held

theorem MappingMeans.mem_of_record {entries : List (Key × Value)} {fields : Record}
    (means : MappingMeans entries (.record fields)) :
    ∀ field ∈ fields.toList, (.string field.1, field.2) ∈ entries := by
  intro field member
  cases means with
  | @record entries _ stored =>
    have found := stored field.1
    rw [Ascending.find?_of_mem member] at found
    obtain ⟨before, behind, split, -⟩ := List.lookup_eq_some_iff.mp found.symm
    refine List.mem_map.mpr ⟨field, List.mem_reverse.mp ?_, rfl⟩
    rw [split]
    exact List.mem_append_right _ List.mem_cons_self

/-- **A mapping from integers counts something**, and no count is beyond the signed integers. -/
theorem MappingMeans.countable {entries : List (Key × Value)} {counts : Distribution}
    (means : MappingMeans entries (.distribution counts)) : counts.Countable := by
  cases means with
  | @distribution entries _ nonempty counted stored =>
    constructor
    · intro empty
      obtain ⟨entry, member⟩ := List.exists_mem_of_ne_nil entries nonempty
      have found : (entries.reverse.lookup entry.1).isSome = true :=
        List.lookup_isSome_iff.mpr ⟨entry, List.mem_reverse.mpr member, beq_self_eq_true entry.1⟩
      obtain ⟨number, listed⟩ := Option.isSome_iff_exists.mp found
      have held := Ascending.mem_of_find? ((stored entry.1).trans (congrArg _ listed))
      rw [empty] at held
      cases held
    · intro entry member
      have found := stored entry.1
      rw [Ascending.find?_of_mem member] at found
      obtain ⟨number, listed, is⟩ := Option.map_eq_some_iff.mp found.symm
      obtain ⟨before, behind, split, -⟩ := List.lookup_eq_some_iff.mp listed
      have among : (entry.1, number) ∈ entries := by
        refine List.mem_reverse.mp ?_
        rw [split]
        exact List.mem_append_right _ List.mem_cons_self
      rw [← is]
      exact Int64.toUInt64_le (counted _ among) (Int64.le_maxValue number)

/-- **What a container stands for**: a value of the grammar inside it, a list or a record of such
values, or a distribution. -/
theorem Container.held {inner : Grammar Value} {text rest : List Char} {found : Value}
    (h : Container inner text found rest) :
    (∃ items, found = .list items ∧ ∀ item ∈ items, Held inner item) ∨ Held inner found ∨
      (∃ fields : Record, found = .record fields ∧ ∀ field ∈ fields.toList, Held inner field.2) ∨
      ∃ counts : Distribution, found = .distribution counts ∧ counts.Countable := by
  cases h with
  | list sequence => exact .inl ⟨_, rfl, sequence.held⟩
  | parenthesized sequence => exact .inr (.inl (sequence.held found List.mem_cons_self))
  | tuple sequence => exact .inl ⟨_, rfl, sequence.held⟩
  | mapping sequence means =>
    cases found with
    | record fields =>
      refine .inr (.inr (.inl ⟨fields, rfl, fun field member => ?_⟩))
      obtain ⟨text, rest, entry⟩ := sequence.held _ (means.mem_of_record field member)
      cases entry with
      | mk named colon before holds => exact ⟨_, _, holds⟩
    | distribution counts => exact .inr (.inr (.inr ⟨counts, rfl, means.countable⟩))
    | _ => nomatch means

theorem Scalar.fits {text rest : List Char} {found : Value} (h : Scalar text found rest)
    (levels : Nat) : found.Fits levels := by
  have leaf : found.nesting = 0 ∧ ∀ counts, .distribution counts ∉ found.parts := by
    cases h with
    | word word => cases word <;> simp [Value.nesting, Value.parts]
    | _ => simp [Value.nesting, Value.parts]
  exact ⟨leaf.1 ▸ Nat.zero_le levels, fun counts inside => absurd inside (leaf.2 counts)⟩

/-- **A literal stands for a value that fits into its levels.** -/
theorem fits_of_literal (levels : Nat) {text rest : List Char} {found : Value}
    (h : LiteralText levels text found rest) : found.Fits levels := by
  induction levels generalizing text found rest with
  | zero => exact h.fits 0
  | succ levels ih =>
    rcases h with scalar | container
    · exact scalar.fits (levels + 1)
    have inside : ∀ {value : Value}, Held (LiteralText levels) value → value.Fits levels := by
      rintro value ⟨text, rest, literal⟩
      exact ih literal
    rcases container.held with
      ⟨items, rfl, held⟩ | held | ⟨fields, rfl, held⟩ | ⟨counts, rfl, countable⟩
    · exact Value.fits_list_iff.mpr fun item member => inside (held item member)
    · exact (inside held).succ
    · exact Value.fits_record_iff.mpr fun field member => inside (held field member)
    · exact Value.fits_distribution_iff.mpr countable

/-- **A written value is read back**, if it fits and there is no float in it. -/
theorem parse_written {found : Value} (fits : found.Fits 64)
    (floatless : ∀ number, .float number ∉ found.parts) :
    parse (String.ofList (written found)) = .ok found := by
  have ends : WordEnds [] := by
    rintro c ⟨⟩
  have literal := literal_written found fits floatless ends
  rw [List.append_nil] at literal
  refine parse_of_denotes ?_
  rw [String.toList_ofList]
  exact ⟨_, [], .none _, literal, .none []⟩

/-- **The values of texts** are those that fit into 64 levels, as far as they have no floats in
them; with floats, too, a value of a text fits. -/
theorem parse_image (found : Value) :
    (∀ text, parse text = .ok found → found.Fits 64) ∧
      (found.Fits 64 → (∀ number, .float number ∉ found.parts) →
        ∃ text, parse text = .ok found) := by
  constructor
  · intro text parsed
    obtain ⟨body, behind, -, literal, -⟩ := denotes_of_parse parsed
    exact fits_of_literal 64 literal
  · intro fits floatless
    exact ⟨_, parse_written fits floatless⟩

/-- A list of a string with a quote, a backslash, a line break and a null character, and of a
distribution with the largest count. -/
def quotedList : Value :=
  .list [.string "\"\\\n\x00",
    .distribution (.cons 3 Int64.maxValue.toUInt64 trivial .nil)]

theorem quotedList_parsed :
    quotedList.Fits 64 ∧ (∀ number, .float number ∉ quotedList.parts) ∧
      ∃ text, parse text = .ok quotedList ∧ quotedList.Fits 64 := by
  have fits : quotedList.Fits 64 := by
    refine Value.fits_list_iff.mpr (List.forall_mem_cons.mpr ⟨⟨by decide, ?_⟩,
      List.forall_mem_singleton.mpr (Value.fits_distribution_iff.mpr
        ⟨by decide, List.forall_mem_singleton.mpr (by decide)⟩)⟩)
    simp [Value.parts]
  have floatless : ∀ number, .float number ∉ quotedList.parts := by
    simp [quotedList, Value.parts, Value.itemsParts]
  obtain ⟨text, parsed⟩ := (parse_image quotedList).2 fits floatless
  exact ⟨fits, floatless, text, parsed, (parse_image quotedList).1 text parsed⟩

end DumpDigest.Literal
