import DumpDigest.Proofs.Literal.Image
import DumpDigest.Value.Display

/-!
# Values displayed as literals

The text of a value shows strings and keys without quotes, and so different values may have one
text.  A bare value has nothing in it that could be mistaken: its text is a literal of it
(`literal_displayed`), and a literal has one meaning (`literal_unique`), so that bare values with
one text are the same (`Bare.eq_of_display`).
-/

namespace DumpDigest

namespace Value

/-- What may be inside a bare value: no floats, no strings, no records with fields, and only
distributions that count something. -/
inductive BarePart : Value → Prop
  | none : BarePart .none
  | bool (flag : Bool) : BarePart (.bool flag)
  | int (number : Int64) : BarePart (.int number)
  | list (items : List Value) : BarePart (.list items)
  | distribution {counts : Distribution} (countable : counts.Countable) :
      BarePart (.distribution counts)
  | empty : BarePart (.record .nil)

/-- A value with nothing in it that its text leaves open. -/
def Bare (value : Value) : Prop :=
  ∀ part ∈ value.parts, BarePart part

theorem Bare.self {value : Value} (h : value.Bare) : BarePart value :=
  h value (self_mem_parts value)

theorem Bare.item {items : List Value} (h : (list items).Bare) {item : Value}
    (member : item ∈ items) : item.Bare :=
  fun part inside => h part (mem_parts_list_iff.mpr (.inr ⟨item, member, inside⟩))

theorem displayItems_eq (items : List Value) : displayItems items = items.map display := by
  induction items with
  | nil => rfl
  | cons item items ih => rw [displayItems, ih, List.map_cons]

end Value

namespace Literal

/-! ### Numbers -/

theorem toList_integerText (number : Int64) :
    (integerText number).toList = writtenInteger number := by
  rw [integerText, Int.repr_eq_if, writtenInteger]
  by_cases negative : number < 0
  · have below : number.toInt < 0 := Int64.lt_iff_toInt_lt.mp negative
    have size : (-number.toInt).toNat = number.toInt.natAbs := by omega
    rw [if_neg (by omega), if_pos negative, String.toList_append, Nat.toList_repr, size]
    rfl
  · have above : ¬ number.toInt < 0 := fun below => negative (Int64.lt_iff_toInt_lt.mpr below)
    have size : number.toInt.toNat = number.toInt.natAbs := by omega
    rw [if_pos (by omega), if_neg negative, Nat.toList_repr, size]
    rfl

theorem toList_countText {count : UInt64} (small : count ≤ Int64.maxValue.toUInt64) :
    (countText count).toList = writtenInteger count.toInt64 := by
  have bound : count.toBitVec.toNat ≤ 2 ^ 63 - 1 := UInt64.le_iff_toNat_le.mp small
  have same : count.toInt64.toInt = count.toNat := by
    show count.toBitVec.toInt = (count.toBitVec.toNat : Int)
    exact BitVec.toInt_eq_toNat_of_lt (by omega)
  rw [← toList_integerText, integerText, same, countText]
  rfl

/-! ### Sequences -/

/-- Pieces with a comma and a blank between them. -/
def joined (pieces : List (List Char)) : List Char :=
  [',', ' '].intercalate pieces

section sequence

variable {α : Type} {item : Grammar α} {close : Char} {rest : List Char}

/-- A piece has a meaning wherever a word may end behind it. -/
def Stands (item : Grammar α) (piece : List Char) (value : α) : Prop :=
  ∀ behind, WordEnds behind → item (piece ++ behind) value behind

theorem elements_joined (ends : WordEnds (close :: rest)) {first : List Char} {value : α}
    {others : List (List Char)} {values : List α} (here : Stands item first value)
    (there : List.Forall₂ (Stands item) others values) {text : List Char}
    (before : Trivia text (joined (first :: others) ++ close :: rest)) :
    Elements item close text (value :: values, false) rest := by
  induction there generalizing first value text with
  | nil =>
    rw [joined, List.intercalate_singleton] at before
    exact .last before (here _ ends) (.none _)
  | @cons next nextValue others values next_stands _ ih =>
    rw [joined, List.intercalate_cons_cons, List.append_assoc, List.append_assoc] at before
    exact .more before (here _ (wordEnds_comma _)) (.none _)
      (ih next_stands (.blank (by decide) (.none _)))

theorem sequence_joined (ends : WordEnds (close :: rest)) {pieces : List (List Char)}
    {values : List α} (stand : List.Forall₂ (Stands item) pieces values) :
    Sequence item close (joined pieces ++ close :: rest) (values, false) rest := by
  cases stand with
  | nil => exact .empty (.none _)
  | cons here there => exact .elements (elements_joined ends here there (.none _))

end sequence

/-! ### Values -/

theorem toList_bracketed (parts : List String) :
    (bracketed parts).toList = '[' :: (joined (parts.map String.toList) ++ [']']) := by
  rw [bracketed, String.toList_append, String.toList_append, String.toList_intercalate]
  rfl

theorem toList_braced (parts : List String) :
    (braced parts).toList = '\x7b' :: (joined (parts.map String.toList) ++ ['\x7d']) := by
  rw [braced, String.toList_append, String.toList_append, String.toList_intercalate]
  rfl

theorem wordEnds_bracket (rest : List Char) : WordEnds (']' :: rest) := by
  rintro c ⟨⟩
  decide

theorem wordEnds_brace (rest : List Char) : WordEnds ('\x7d' :: rest) := by
  rintro c ⟨⟩
  decide

theorem stands_count {levels : Nat} {key : Int64} {count : UInt64}
    (small : count ≤ Int64.maxValue.toUInt64) :
    Stands (EntryText (LiteralText levels)) (integerText key ++ ": " ++ countText count).toList
      (.int key, .int count.toInt64) := by
  intro behind ends
  have colon : WordEnds (':' :: ' ' :: (writtenInteger count.toInt64 ++ behind)) := by
    rintro c ⟨⟩
    decide
  have text : (integerText key ++ ": " ++ countText count).toList ++ behind =
      writtenInteger key ++ ':' :: ' ' :: (writtenInteger count.toInt64 ++ behind) := by
    rw [String.toList_append, String.toList_append, toList_integerText, toList_countText small]
    simp
  rw [text]
  exact .mk (.int (numberText_written key colon)) (.none _) (.blank (by decide) (.none _))
    ((Scalar.int (numberText_written _ ends)).literal levels)

theorem literal_displayedCounts {levels : Nat} {counts : Distribution}
    (countable : counts.Countable) (rest : List Char) :
    LiteralText (levels + 1) (counts.display.toList ++ rest) (.distribution counts) rest := by
  have entries : List.Forall₂ (Stands (EntryText (LiteralText levels)))
      ((counts.toList.map fun entry => integerText entry.1 ++ ": " ++ countText entry.2).map
        String.toList)
      (counts.toList.map fun entry => (.int entry.1, .int entry.2.toInt64)) := by
    rw [List.map_map, List.forall₂_map_left_iff, List.forall₂_map_right_iff, List.forall₂_same]
    exact fun entry member => stands_count (countable.2 entry member)
  rw [Distribution.display, toList_braced, List.cons_append, List.append_assoc]
  exact .inr (.mapping (sequence_joined (wordEnds_brace rest) entries)
    (mappingMeans_counts countable))

theorem literal_displayedList {levels : Nat} {items : List Value}
    (stand : ∀ item ∈ items, Stands (LiteralText levels) item.display.toList item)
    (rest : List Char) :
    LiteralText (levels + 1) ((Value.list items).display.toList ++ rest) (.list items) rest := by
  have pieces : List.Forall₂ (Stands (LiteralText levels))
      ((items.map Value.display).map String.toList) items := by
    rw [List.map_map, List.forall₂_map_left_iff, List.forall₂_same]
    exact stand
  rw [Value.display, Value.displayItems_eq, toList_bracketed, List.cons_append, List.append_assoc]
  exact .inr (.list (sequence_joined (wordEnds_bracket rest) pieces))

theorem literal_displayedEmpty (levels : Nat) (rest : List Char) :
    LiteralText (levels + 1) ((Value.record .nil).display.toList ++ rest) (.record .nil) rest :=
  .inr (.mapping (.empty (.none _)) (mappingMeans_fields .nil))

/-- **The text of a bare value is a literal of it.** -/
theorem literal_displayed (value : Value) :
    ∀ {levels : Nat}, value.Bare → value.nesting ≤ levels →
      Stands (LiteralText levels) value.display.toList value := by
  induction value using Value.inductionOnParts with
  | none =>
    intro levels bare nesting behind ends
    exact (Scalar.word (.none ends)).literal levels
  | bool flag =>
    intro levels bare nesting behind ends
    cases flag with
    | true => exact (Scalar.word (.true ends)).literal levels
    | false => exact (Scalar.word (.false ends)).literal levels
  | int number =>
    intro levels bare nesting behind ends
    rw [Value.display, toList_integerText]
    exact (Scalar.int (numberText_written number ends)).literal levels
  | float number =>
    intro levels bare
    nomatch bare.self
  | string text =>
    intro levels bare
    nomatch bare.self
  | list items ih =>
    intro levels bare nesting behind ends
    cases levels with
    | zero => exact absurd nesting (Nat.not_succ_le_zero _)
    | succ levels =>
      refine literal_displayedList (fun item member => ?_) behind
      exact ih item member (bare.item member) (Value.nesting_list_le_iff.mp nesting item member)
  | distribution counts =>
    intro levels bare nesting behind ends
    cases levels with
    | zero => exact absurd nesting (Nat.not_succ_le_zero _)
    | succ levels =>
      cases bare.self with
      | distribution countable => exact literal_displayedCounts countable behind
  | record fields ih =>
    intro levels bare nesting behind ends
    cases levels with
    | zero => exact absurd nesting (Nat.not_succ_le_zero _)
    | succ levels =>
      cases bare.self with
      | empty => exact literal_displayedEmpty levels behind

/-- **A literal has one meaning.** -/
theorem literal_unique {levels : Nat} {text rest : List Char} {first second : Value}
    (delimited : Delimited rest) (h : LiteralText levels text first rest)
    (h' : LiteralText levels text second rest) : first = second := by
  obtain ⟨step, read, rfl, -⟩ := complete_value levels h delimited
  obtain ⟨step', read', rfl, -⟩ := complete_value levels h' delimited
  rw [Except.ok.inj (read.symm.trans read')]

/-! ### Bare values read back -/

/-- **A bare value is read back from its text** if it nests at most 64 containers, and only then. -/
theorem parse_display_iff {value : Value} (bare : value.Bare) :
    parse value.display = .ok value ↔ value.nesting ≤ 64 := by
  constructor
  · intro parsed
    obtain ⟨body, behind, -, literal, -⟩ := denotes_of_parse parsed
    exact (fits_of_literal 64 literal).nesting
  · intro nesting
    have ends : WordEnds [] := by
      rintro c ⟨⟩
    have literal := literal_displayed value bare nesting [] ends
    rw [List.append_nil] at literal
    exact parse_of_denotes ⟨_, [], .none _, literal, .none []⟩

/-- A list of everything that a bare value may hold, with the least integer and the largest
count. -/
def bareList : Value :=
  .list [.none, .bool true, .bool false, .int Int64.minValue, .list [.int 7], .list [],
    .record .nil, .distribution (.cons (-3) Int64.maxValue.toUInt64 trivial .nil)]

theorem bareList_read_back : bareList.Bare ∧ parse bareList.display = .ok bareList := by
  have bare : bareList.Bare := by
    intro part inside
    simp only [bareList, Value.parts, Value.itemsParts, Value.fieldsParts, List.cons_append,
      List.nil_append, List.append_nil, List.mem_cons, List.not_mem_nil, or_false] at inside
    rcases inside with rfl | rfl | rfl | rfl | rfl | rfl | rfl | rfl | rfl | rfl
    · exact .list _
    · exact .none
    · exact .bool true
    · exact .bool false
    · exact .int _
    · exact .list _
    · exact .int 7
    · exact .list []
    · exact .empty
    · exact .distribution ⟨by decide, List.forall_mem_singleton.mpr (by decide)⟩
  exact ⟨bare, (parse_display_iff bare).mpr (by decide)⟩

end Literal

/-- **Bare values with the same text are the same.** -/
theorem Value.Bare.eq_of_display {first second : Value} (bare : first.Bare) (bare' : second.Bare)
    (same : first.display = second.display) : first = second := by
  have ends : Literal.WordEnds [] := by
    rintro c ⟨⟩
  have literal := Literal.literal_displayed first bare (Nat.le_max_left _ second.nesting) [] ends
  have literal' := Literal.literal_displayed second bare' (Nat.le_max_right first.nesting _) [] ends
  rw [same] at literal
  exact Literal.literal_unique (Literal.Trivia.none []).delimited_end literal literal'

end DumpDigest
