import DumpDigest.Proofs.Literal.Mapping
import DumpDigest.Proofs.Value.Parts
import Mathlib.Data.List.Basic

/-!
# Values written as literals

`written` writes a value without floats as a literal of it, and `literal_written` says that it is
one.  Every item of a container is followed by a comma, so that what stands behind an item is always
the same.  Strings stand in double quotes, and only the characters that may not stand there are
escaped.
-/

namespace DumpDigest.Literal

/-! ### Strings -/

/-- A character between double quotes. -/
def writtenCharacter (c : Char) : List Char :=
  if c = '"' then ['\\', '"'] else if c = '\\' then ['\\', '\\'] else if c = '\n' then ['\\', 'n']
  else [c]

/-- A string in double quotes. -/
def writtenString (text : List Char) : List Char :=
  '"' :: (text.flatMap writtenCharacter ++ ['"'])

theorem stringPart_writtenCharacter (c : Char) : StringPart '"' (writtenCharacter c) [c] := by
  unfold writtenCharacter
  split
  · next is =>
    subst is
    exact .known (by decide)
  · next noQuote =>
    split
    · next is =>
      subst is
      exact .known (by decide)
    · next noBackslash =>
      split
      · next is =>
        subst is
        exact .known (by decide)
      · next noBreak => exact .plain noQuote noBackslash noBreak

theorem quotedText_written (text rest : List Char) :
    QuotedText '"' (text.flatMap writtenCharacter ++ '"' :: rest) text rest := by
  induction text with
  | nil => exact .close rest
  | cons c text ih =>
    rw [List.flatMap_cons, List.append_assoc]
    exact .part (stringPart_writtenCharacter c) ih

theorem stringsText_written (text rest : List Char) :
    StringsText (writtenString text ++ rest) text rest := by
  rw [writtenString, List.cons_append, List.append_assoc]
  exact .one rfl (quotedText_written text rest)

/-! ### Integers -/

/-- An integer. -/
def writtenInteger (number : Int64) : List Char :=
  (if number < 0 then ['-'] else []) ++ Nat.toDigits 10 number.toInt.natAbs

theorem hexDigit?_of_isDigit {c : Char} (digit : c.isDigit = true) :
    Text.hexDigit? c = some (c.toNat - '0'.toNat) := by
  have bounds : ('0' ≤ c && c ≤ '9') = true := digit
  rw [Text.hexDigit?, if_pos bounds]

theorem areDigits_toDigits (number : Nat) : AreDigits (Nat.toDigits 10 number) :=
  fun _ member => Nat.isDigit_of_mem_toDigits (by decide) (by decide) member

theorem digitsValue_toDigits (number : Nat) :
    Text.digitsValue 10 (Nat.toDigits 10 number) = number := by
  have same : Text.digitsValue 10 (Nat.toDigits 10 number) =
      Nat.ofDigitChars 10 (Nat.toDigits 10 number) 0 := by
    rw [Text.digitsValue, Nat.ofDigitChars_eq_foldl]
    refine List.foldl_ext _ _ _ fun value c member => ?_
    rw [hexDigit?_of_isDigit (areDigits_toDigits number c member), Option.getD_some]
  rw [same, Nat.ofDigitChars_ten_toDigits]

theorem numberText_written (number : Int64) {rest : List Char} (ends : WordEnds rest) :
    NumberText (writtenInteger number ++ rest) (.int number) rest := by
  have digits := areDigits_toDigits number.toInt.natAbs
  by_cases negative : number < 0
  · have value : number.toInt = Decimal.signed (some '-')
        (Text.digitsValue 10 (Nat.toDigits 10 number.toInt.natAbs)) := by
      have below : number.toInt < 0 := Int64.lt_iff_toInt_lt.mp negative
      rw [digitsValue_toDigits, Decimal.signed, if_pos rfl]
      omega
    have written := NumberText.int (by rintro c ⟨⟩; exact .inl rfl) digits
      Nat.toDigits_ne_nil (.inl rfl) value ends
    rw [writtenInteger, if_pos negative]
    simpa using written
  · have value : number.toInt = Decimal.signed none
        (Text.digitsValue 10 (Nat.toDigits 10 number.toInt.natAbs)) := by
      have above : ¬ number.toInt < 0 := fun below => negative (Int64.lt_iff_toInt_lt.mpr below)
      rw [digitsValue_toDigits, Decimal.signed, if_neg (by decide)]
      omega
    have written := NumberText.int (by rintro c ⟨⟩) digits Nat.toDigits_ne_nil (.inl rfl) value ends
    rw [writtenInteger, if_neg negative]
    simpa using written

/-! ### Sequences -/

/-- Pieces with a comma behind each. -/
def withCommas (pieces : List (List Char)) : List Char :=
  pieces.flatMap (· ++ [','])

section sequence

variable {α : Type} {item : Grammar α} {close : Char} {write : α → List Char}

theorem elements_withCommas (rest : List Char) (others : List α) (first : α)
    (each : ∀ value ∈ first :: others, ∀ behind,
      item (write value ++ ',' :: behind) value (',' :: behind)) :
    Elements item close (withCommas ((first :: others).map write) ++ close :: rest)
      (first :: others, true) rest := by
  induction others generalizing first with
  | nil =>
    have here := each first List.mem_cons_self (close :: rest)
    have written : withCommas ([first].map write) ++ close :: rest =
        write first ++ ',' :: close :: rest := by simp [withCommas]
    rw [written]
    exact .comma (.none _) here (.none _) (.none _)
  | cons next others ih =>
    have further := ih next fun value member => each value (List.mem_cons_of_mem first member)
    have here := each first List.mem_cons_self
      (withCommas ((next :: others).map write) ++ close :: rest)
    have written : withCommas ((first :: next :: others).map write) ++ close :: rest =
        write first ++ ',' :: (withCommas ((next :: others).map write) ++ close :: rest) := by
      simp [withCommas]
    rw [written]
    exact .more (.none _) here (.none _) further

/-- **Written items are a sequence**, and a single one has a comma behind it. -/
theorem sequence_withCommas (rest : List Char) (values : List α)
    (each : ∀ value ∈ values, ∀ behind, item (write value ++ ',' :: behind) value (',' :: behind)) :
    ∃ comma, Sequence item close (withCommas (values.map write) ++ close :: rest)
      (values, comma) rest ∧ (values.length = 1 → comma = true) := by
  cases values with
  | nil => exact ⟨false, .empty (.none _), fun one => (by cases one)⟩
  | cons first others =>
    exact ⟨true, .elements (elements_withCommas rest others first each), fun _ => rfl⟩

end sequence

/-! ### Values -/

/-- An entry of a mapping. -/
def writtenEntry (key held : List Char) : List Char :=
  key ++ ':' :: held

/-- An integer and how often it was counted. -/
def writtenCount (entry : Int64 × UInt64) : List Char :=
  writtenEntry (writtenInteger entry.1) (writtenInteger entry.2.toInt64)

mutual

/-- A value without floats as a literal. -/
def written : Value → List Char
  | .none => ['N', 'o', 'n', 'e']
  | .bool true => ['T', 'r', 'u', 'e']
  | .bool false => ['F', 'a', 'l', 's', 'e']
  | .int number => writtenInteger number
  | .float _ => []
  | .string text => writtenString text.toList
  | .list items => '[' :: (withCommas (writtenItems items) ++ [']'])
  | .distribution counts => '\x7b' :: (withCommas (counts.toList.map writtenCount) ++ ['\x7d'])
  | .record fields => '\x7b' :: (withCommas (writtenFields fields) ++ ['\x7d'])

/-- The items of a list. -/
def writtenItems : List Value → List (List Char)
  | [] => []
  | item :: items => written item :: writtenItems items

/-- The fields of a record. -/
def writtenFields {bound : Option String} : Ascending String Value bound → List (List Char)
  | .nil => []
  | .cons key value _ rest =>
    writtenEntry (writtenString key.toList) (written value) :: writtenFields rest

end

theorem writtenItems_eq (items : List Value) : writtenItems items = items.map written := by
  induction items with
  | nil => rfl
  | cons item items ih => rw [writtenItems, ih, List.map_cons]

/-- An entry of a mapping from its key and its value. -/
def writtenKeyed (entry : Key × Value) : List Char :=
  match entry.1 with
  | .string key => writtenEntry (writtenString key.toList) (written entry.2)
  | .int key => writtenEntry (writtenInteger key) (written entry.2)

theorem writtenCounts_eq (counts : Distribution) :
    counts.toList.map writtenCount =
      (counts.toList.map fun (key, count) => (Key.int key, Value.int count.toInt64)).map
        writtenKeyed := by
  rw [List.map_map]
  rfl

theorem writtenFields_eq {bound : Option String} (fields : Ascending String Value bound) :
    writtenFields fields =
      (fields.toList.map fun (key, value) => (Key.string key, value)).map writtenKeyed := by
  induction fields with
  | nil => rfl
  | cons key value follows rest ih =>
    rw [writtenFields, ih]
    rfl

theorem entryText_writtenKeyed {grammar : Grammar Value} (entry : Key × Value) (behind : List Char)
    (holds : grammar (written entry.2 ++ behind) entry.2 behind) :
    EntryText grammar (writtenKeyed entry ++ behind) entry behind := by
  obtain ⟨key, held⟩ := entry
  have ends : WordEnds (':' :: (written held ++ behind)) := by
    rintro c ⟨⟩
    decide
  cases key with
  | string key =>
    have strings := stringsText_written key.toList (':' :: (written held ++ behind))
    have named := KeyText.string strings
    rw [String.ofList_toList] at named
    simp only [writtenKeyed, writtenEntry, List.append_assoc, List.cons_append]
    exact .mk named (.none _) (.none _) holds
  | int key =>
    have named := KeyText.int (numberText_written key ends)
    simp only [writtenKeyed, writtenEntry, List.append_assoc, List.cons_append]
    exact .mk named (.none _) (.none _) holds

/-! ### What the entries stand for -/

theorem mappingMeans_fields (fields : Record) :
    MappingMeans (fields.toList.map fun (key, value) => (.string key, value)) (.record fields) :=
  .record (Ascending.find?_eq_lookup fields)

theorem toInt64_nonneg {count : UInt64} (small : count ≤ Int64.maxValue.toUInt64) :
    0 ≤ count.toInt64 := by
  have bound : count.toBitVec.toNat ≤ 2 ^ 63 - 1 := UInt64.le_iff_toNat_le.mp small
  rw [Int64.le_iff_toInt_le]
  show (0 : Int) ≤ count.toBitVec.toInt
  rw [BitVec.toInt_eq_toNat_of_lt (by omega)]
  exact Int.natCast_nonneg _

theorem mappingMeans_counts {counts : Distribution} (countable : counts.Countable) :
    MappingMeans (counts.toList.map fun (key, count) => (.int key, .int count.toInt64))
      (.distribution counts) := by
  obtain ⟨nonempty, small⟩ := countable
  have counted : ∀ entry ∈ counts.toList.map (fun (key, count) => (key, count.toInt64)),
      0 ≤ entry.2 := by
    intro entry member
    obtain ⟨⟨key, count⟩, listed, rfl⟩ := List.mem_map.mp member
    exact toInt64_nonneg (small _ listed)
  have stored : ∀ key, counts.find? key =
      ((counts.toList.map fun (key, count) => (key, count.toInt64)).reverse.lookup key).map
        Int64.toUInt64 := by
    intro key
    rw [Ascending.find?_eq_lookup, ← List.map_reverse, lookup_map_snd, Option.map_map]
    exact (congrFun Option.map_id _).symm
  have means := MappingMeans.distribution (by simpa using nonempty) counted stored
  rwa [List.map_map] at means

/-! ### Values as literals -/

theorem wordEnds_comma (behind : List Char) : WordEnds (',' :: behind) := by
  rintro c ⟨⟩
  decide

theorem Scalar.literal {text rest : List Char} {value : Value} (scalar : Scalar text value rest)
    (levels : Nat) : LiteralText levels text value rest := by
  cases levels with
  | zero => exact scalar
  | succ levels => exact .inl scalar

section container

variable {levels : Nat} (rest : List Char)

theorem literal_writtenList (items : List Value)
    (literals : ∀ item ∈ items, ∀ behind,
      LiteralText levels (written item ++ ',' :: behind) item (',' :: behind)) :
    LiteralText (levels + 1) (written (.list items) ++ rest) (.list items) rest := by
  obtain ⟨comma, sequence, -⟩ := sequence_withCommas rest items literals
  rw [written, writtenItems_eq, List.cons_append, List.append_assoc]
  exact .inr (.list sequence)

theorem literal_writtenMapping {entries : List (Key × Value)} {value : Value}
    (literals : ∀ entry ∈ entries, ∀ behind,
      LiteralText levels (written entry.2 ++ ',' :: behind) entry.2 (',' :: behind))
    (means : MappingMeans entries value) :
    LiteralText (levels + 1)
      ('\x7b' :: (withCommas (entries.map writtenKeyed) ++ ['\x7d']) ++ rest) value rest := by
  obtain ⟨comma, sequence, -⟩ := sequence_withCommas rest entries fun entry member behind =>
    entryText_writtenKeyed entry (',' :: behind) (literals entry member behind)
  rw [List.cons_append, List.append_assoc]
  exact .inr (.mapping sequence means)

theorem literal_writtenCounts {counts : Distribution} (countable : counts.Countable) :
    LiteralText (levels + 1) (written (.distribution counts) ++ rest) (.distribution counts)
      rest := by
  rw [written, writtenCounts_eq]
  refine literal_writtenMapping rest ?_ (mappingMeans_counts countable)
  intro entry member behind
  obtain ⟨⟨key, count⟩, -, rfl⟩ := List.mem_map.mp member
  exact (Scalar.int (numberText_written _ (wordEnds_comma behind))).literal levels

theorem literal_writtenRecord (fields : Record)
    (literals : ∀ field ∈ fields.toList, ∀ behind,
      LiteralText levels (written field.2 ++ ',' :: behind) field.2 (',' :: behind)) :
    LiteralText (levels + 1) (written (.record fields) ++ rest) (.record fields) rest := by
  rw [written, writtenFields_eq]
  refine literal_writtenMapping rest ?_ (mappingMeans_fields fields)
  intro entry member
  obtain ⟨field, listed, rfl⟩ := List.mem_map.mp member
  exact literals field listed

end container

/-- **A written value is a literal of it**, if there is no float in it. -/
theorem literal_written (value : Value) :
    ∀ {levels : Nat} {rest : List Char}, value.Fits levels →
      (∀ number, .float number ∉ value.parts) → WordEnds rest →
      LiteralText levels (written value ++ rest) value rest := by
  induction value using Value.inductionOnParts with
  | none =>
    intro levels rest fits floatless ends
    exact (Scalar.word (.none ends)).literal levels
  | bool flag =>
    intro levels rest fits floatless ends
    cases flag with
    | true => exact (Scalar.word (.true ends)).literal levels
    | false => exact (Scalar.word (.false ends)).literal levels
  | int number =>
    intro levels rest fits floatless ends
    exact (Scalar.int (numberText_written number ends)).literal levels
  | float number =>
    intro levels rest fits floatless ends
    exact absurd (Value.self_mem_parts _) (floatless number)
  | string text =>
    intro levels rest fits floatless ends
    have strings := Scalar.string (stringsText_written text.toList rest)
    rw [String.ofList_toList] at strings
    exact strings.literal levels
  | list items ih =>
    intro levels rest fits floatless ends
    cases levels with
    | zero => exact absurd fits.nesting (Nat.not_succ_le_zero _)
    | succ levels =>
      refine literal_writtenList rest items fun item member behind => ?_
      refine ih item member (Value.fits_list_iff.mp fits item member) ?_ (wordEnds_comma behind)
      exact fun number inside => floatless number
        (Value.mem_parts_list_iff.mpr (.inr ⟨item, member, inside⟩))
  | distribution counts =>
    intro levels rest fits floatless ends
    cases levels with
    | zero => exact absurd fits.nesting (Nat.not_succ_le_zero _)
    | succ levels => exact literal_writtenCounts rest (Value.fits_distribution_iff.mp fits)
  | record fields ih =>
    intro levels rest fits floatless ends
    cases levels with
    | zero => exact absurd fits.nesting (Nat.not_succ_le_zero _)
    | succ levels =>
      refine literal_writtenRecord rest fields fun field member behind => ?_
      refine ih field member (Value.fits_record_iff.mp fits field member) ?_ (wordEnds_comma behind)
      exact fun number inside => floatless number
        (Value.mem_parts_record_iff.mpr (.inr ⟨field, member, inside⟩))

end DumpDigest.Literal
