import DumpDigest.Proofs.Literal.Number
import DumpDigest.Proofs.Literal.Quoted

/-!
# Literals without containers

`scalar_of_yields` and `Scalar.yields`: what the reader takes for a literal without containers is
one, and it reads all of them.  The reader looks at the first character to decide what follows, so
the grammar's first characters are listed here: `ScalarStart` for all literals without containers,
`KeyStart` for the keys of mappings.
-/

namespace DumpDigest.Literal

open Text (Step)
open Result

/-! ### First characters -/

/-- A character that begins a number. -/
def NumberStart (c : Char) : Prop := IsSign c ∨ c = '.' ∨ c.isDigit = true

/-- A character that begins the key of a mapping. -/
def KeyStart (c : Char) : Prop := isQuote c = true ∨ IsSign c ∨ c.isDigit = true

/-- A character that begins a literal without containers. -/
def ScalarStart (c : Char) : Prop := isQuote c = true ∨ NumberStart c ∨ c ∈ ['T', 'F', 'N']

/-- The brackets that open containers. -/
def openingBrackets : List Char := ['\x7b', '[', '(']

/-- A character is neither trivia nor a separator. -/
def Starts (c : Char) : Prop :=
  Text.isBlank c = false ∧ c ≠ '#' ∧ c ∉ separators

instance (c : Char) : Decidable (Starts c) :=
  inferInstanceAs (Decidable (_ ∧ _))

theorem Starts.afterTrivia_eq {c : Char} (starts : Starts c) (text : List Char) :
    afterTrivia (c :: text) = c :: text :=
  afterTrivia_cons starts.1 starts.2.1 text

theorem starts_of_isDigit {c : Char} (digit : c.isDigit = true) :
    Starts c ∧ c ∉ openingBrackets := by
  have others : ∀ d ∈ '#' :: separators ++ openingBrackets, d.isDigit = false :=
    List.all_iff_forall_prop.mp (by decide)
  have differs : ∀ d ∈ '#' :: separators ++ openingBrackets, c ≠ d := by
    rintro d hd rfl
    rw [others c hd] at digit
    cases digit
  refine ⟨⟨?_, differs '#' (by decide), fun h => ?_⟩, fun h => ?_⟩
  · rw [Bool.eq_false_iff]
    intro blank
    have word := isWordCharacter_of_isDigit digit
    rw [isWordCharacter_blank blank] at word
    cases word
  · exact differs c (List.mem_append_left _ (List.mem_cons_of_mem _ h)) rfl
  · exact differs c (List.mem_append_right _ h) rfl

theorem ScalarStart.starts {c : Char} (h : ScalarStart c) : Starts c ∧ c ∉ openingBrackets := by
  have listed : ∀ d ∈ ['"', '\'', '-', '+', '.', 'T', 'F', 'N'], Starts d ∧ d ∉ openingBrackets :=
    List.all_iff_forall_prop.mp (by decide)
  rcases h with quote | (sign | point | digit) | word
  · have quotes : c = '"' ∨ c = '\'' := by simpa [isQuote] using quote
    rcases quotes with rfl | rfl <;> exact listed _ (by decide)
  · rcases sign with rfl | rfl <;> exact listed _ (by decide)
  · exact point ▸ listed '.' (by decide)
  · exact starts_of_isDigit digit
  · simp only [List.mem_cons, List.not_mem_nil, or_false] at word
    rcases word with rfl | rfl | rfl <;> exact listed _ (by decide)

theorem NumberText.int_start {text rest : List Char} {number : Int64}
    (h : NumberText text (.int number) rest) :
    ∃ c more, text = c :: more ∧ (IsSign c ∨ c.isDigit = true) := by
  cases h with
  | @int sign digits long _ _ signs digit nonempty =>
    cases sign with
    | some c => exact ⟨c, _, rfl, .inl (signs c rfl)⟩
    | none =>
      obtain ⟨d, digits, rfl⟩ := List.exists_cons_of_ne_nil nonempty
      exact ⟨d, _, rfl, .inr (digit d List.mem_cons_self)⟩

theorem NumberText.start {text rest : List Char} {number : Number}
    (h : NumberText text number rest) : ∃ c more, text = c :: more ∧ NumberStart c := by
  cases number with
  | int number =>
    obtain ⟨c, more, rfl, sign | digit⟩ := h.int_start
    · exact ⟨c, more, rfl, .inl sign⟩
    · exact ⟨c, more, rfl, .inr (.inr digit)⟩
  | float number =>
    cases h with
    | @float numeral mark _ proper =>
      rw [numeralText]
      have mantissa := proper.mantissa
      cases sign : numeral.sign with
      | some c => exact ⟨c, _, rfl, .inl (proper.sign c sign)⟩
      | none =>
        cases whole : numeral.whole with
        | cons d digits =>
          refine ⟨d, _, rfl, .inr (.inr (proper.whole d ?_))⟩
          rw [whole]
          exact List.mem_cons_self
        | nil =>
          cases fraction : numeral.fraction with
          | some digits => exact ⟨'.', _, rfl, .inr (.inl rfl)⟩
          | none =>
            rw [Decimal.Numeral.digits, whole, fraction] at mantissa
            exact absurd rfl mantissa

theorem KeyText.start {text rest : List Char} {key : Key} (h : KeyText text key rest) :
    ∃ c more, text = c :: more ∧ KeyStart c := by
  cases h with
  | string strings =>
    obtain ⟨quote, body, rfl, opens⟩ := strings.opens
    exact ⟨quote, body, rfl, .inl opens⟩
  | int integer =>
    obtain ⟨c, more, rfl, start⟩ := integer.int_start
    exact ⟨c, more, rfl, .inr start⟩

theorem KeyStart.scalarStart {c : Char} (h : KeyStart c) : ScalarStart c := by
  rcases h with quote | sign | digit
  · exact .inl quote
  · exact .inr (.inl (.inl sign))
  · exact .inr (.inl (.inr (.inr digit)))

theorem WordText.start {text rest : List Char} {value : Value} (h : WordText text value rest) :
    ∃ c more, text = c :: more ∧ c ∈ ['T', 'F', 'N'] := by
  cases h with
  | true => exact ⟨'T', _, rfl, by decide⟩
  | false => exact ⟨'F', _, rfl, by decide⟩
  | none => exact ⟨'N', _, rfl, by decide⟩

theorem Scalar.start {text rest : List Char} {value : Value} (h : Scalar text value rest) :
    ∃ c more, text = c :: more ∧ ScalarStart c := by
  cases h with
  | word word =>
    obtain ⟨c, more, rfl, start⟩ := word.start
    exact ⟨c, more, rfl, .inr (.inr start)⟩
  | int integer =>
    obtain ⟨c, more, rfl, start⟩ := integer.start
    exact ⟨c, more, rfl, .inr (.inl start)⟩
  | float decimal =>
    obtain ⟨c, more, rfl, start⟩ := decimal.start
    exact ⟨c, more, rfl, .inr (.inl start)⟩
  | string strings =>
    obtain ⟨quote, body, rfl, opens⟩ := strings.opens
    exact ⟨quote, body, rfl, .inl opens⟩

/-! ### Words -/

theorem wordEnds_dropWhile (text : List Char) : WordEnds (text.dropWhile isWordCharacter) := by
  intro c hc
  have stops := List.head?_dropWhile_not isWordCharacter text
  rw [hc] at stops
  simpa using stops

theorem cons_eq_of_word {first : Char} {behind : List Char} (letters : List Char)
    (is : String.ofList (first :: behind.takeWhile isWordCharacter) = String.ofList letters) :
    first :: behind = letters ++ behind.dropWhile isWordCharacter := by
  rw [← String.ofList_injective is, List.cons_append, List.takeWhile_append_dropWhile]

theorem wordText_of_word {first : Char} {behind rest : List Char} {value : Value}
    (h : Yields (word first behind) value rest) : WordText (first :: behind) value rest := by
  have ends := wordEnds_dropWhile behind
  unfold word at h
  split at h
  · next is =>
    obtain ⟨found, left⟩ := yields_pure_iff.mp h
    rw [cons_eq_of_word ['T', 'r', 'u', 'e'] is, ← found, ← left]
    exact .true ends
  · next is =>
    obtain ⟨found, left⟩ := yields_pure_iff.mp h
    rw [cons_eq_of_word ['F', 'a', 'l', 's', 'e'] is, ← found, ← left]
    exact .false ends
  · next is =>
    obtain ⟨found, left⟩ := yields_pure_iff.mp h
    rw [cons_eq_of_word ['N', 'o', 'n', 'e'] is, ← found, ← left]
    exact .none ends
  · exact absurd h not_yields_error

theorem takeWhile_word {letters rest : List Char} (word : ∀ c ∈ letters, isWordCharacter c = true)
    (ends : WordEnds rest) :
    (letters ++ rest).takeWhile isWordCharacter = letters ∧
      (letters ++ rest).dropWhile isWordCharacter = rest := by
  obtain ⟨none, all⟩ := takeWhile_eq_nil_of_head ends
  rw [List.takeWhile_append_of_pos word, List.dropWhile_append_of_pos word, none, all,
    List.append_nil]
  exact ⟨rfl, rfl⟩

theorem yields_word {c : Char} {more rest : List Char} {value : Value}
    (h : WordText (c :: more) value rest) : Yields (word c more) value rest := by
  cases h with
  | true ends =>
    have letters : ∀ c ∈ ['r', 'u', 'e'], isWordCharacter c = true :=
      List.all_iff_forall_prop.mp (by decide)
    obtain ⟨taken, left⟩ := takeWhile_word letters ends
    simp only [List.cons_append, List.nil_append] at taken left
    simp only [word, taken]
    exact ⟨_, rfl, rfl, left⟩
  | false ends =>
    have letters : ∀ c ∈ ['a', 'l', 's', 'e'], isWordCharacter c = true :=
      List.all_iff_forall_prop.mp (by decide)
    obtain ⟨taken, left⟩ := takeWhile_word letters ends
    simp only [List.cons_append, List.nil_append] at taken left
    simp only [word, taken]
    exact ⟨_, rfl, rfl, left⟩
  | none ends =>
    have letters : ∀ c ∈ ['o', 'n', 'e'], isWordCharacter c = true :=
      List.all_iff_forall_prop.mp (by decide)
    obtain ⟨taken, left⟩ := takeWhile_word letters ends
    simp only [List.cons_append, List.nil_append] at taken left
    simp only [word, taken]
    exact ⟨_, rfl, rfl, left⟩

/-! ### Keys -/

theorem not_isQuote_of_isDigit {c : Char} (digit : c.isDigit = true) : ¬ isQuote c = true := by
  intro quote
  have quotes : c = '"' ∨ c = '\'' := by simpa [isQuote] using quote
  rcases quotes with rfl | rfl <;> exact absurd digit (by decide)

theorem keyText_of_key {text rest : List Char} {found : Key} (h : Yields (key text) found rest) :
    KeyText text found rest := by
  unfold key at h
  split at h
  · exact absurd h not_yields_error
  · next c more =>
    split at h
    · next opens =>
      obtain ⟨strings, stringsRead, h⟩ := yields_bind_iff.mp h
      obtain ⟨rfl, rfl⟩ := yields_pure_iff.mp h
      exact .string (stringsText_of_strings opens more ⟨strings, stringsRead, rfl, rfl⟩)
    · split at h
      · obtain ⟨step, numberRead, h⟩ := yields_bind_iff.mp h
        have text := numberText_of_splitNumber (yields_number_iff.mp ⟨step, numberRead, rfl, rfl⟩)
        split at h
        · next integer is =>
          obtain ⟨rfl, rfl⟩ := yields_pure_iff.mp h
          rw [is] at text
          exact .int text
        · exact absurd h not_yields_error
      · exact absurd h not_yields_error

theorem yields_key {text rest : List Char} {found : Key} (h : KeyText text found rest)
    (delimited : Delimited rest) : Yields (key text) found rest := by
  cases h with
  | string strings =>
    obtain ⟨quote, body, rfl, opens⟩ := strings.opens
    obtain ⟨step, stringsRead, rfl, rfl⟩ := strings_of_stringsText strings delimited rfl
    rw [key, if_pos opens]
    exact yields_bind_iff.mpr ⟨step, stringsRead, yields_ok _⟩
  | int integer =>
    obtain ⟨c, more, rfl, start⟩ := integer.int_start
    obtain ⟨step, numberRead, is, rfl⟩ :=
      yields_number_iff.mpr (splitNumber_of_numberText integer delimited)
    have noQuote : ¬ isQuote c = true := by
      rcases start with (rfl | rfl) | digit
      · decide
      · decide
      · exact not_isQuote_of_isDigit digit
    have digit : (c = '-' || c = '+' || c.isDigit) = true := by
      rcases start with (rfl | rfl) | digit
      · rfl
      · rfl
      · rw [digit, Bool.or_true]
    rw [key, if_neg noQuote, if_pos digit]
    refine yields_bind_iff.mpr ⟨step, numberRead, ?_⟩
    split
    · next integer' is' =>
      obtain rfl := Number.int.inj (is.symm.trans is')
      exact yields_ok _
    · next is' => cases is.symm.trans is'

/-! ### Literals without containers -/

theorem scalar_of_yields {text rest : List Char} {found : Value}
    (h : Yields (scalar text) found rest) : Scalar text found rest := by
  unfold scalar at h
  split at h
  · exact absurd h not_yields_error
  · next c more =>
    split at h
    · next opens =>
      obtain ⟨strings, stringsRead, h⟩ := yields_bind_iff.mp h
      obtain ⟨rfl, rfl⟩ := yields_pure_iff.mp h
      exact .string (stringsText_of_strings opens more ⟨strings, stringsRead, rfl, rfl⟩)
    · split at h
      · obtain ⟨step, numberRead, h⟩ := yields_bind_iff.mp h
        have written :=
          numberText_of_splitNumber (yields_number_iff.mp ⟨step, numberRead, rfl, rfl⟩)
        obtain ⟨found, left⟩ := yields_pure_iff.mp h
        obtain rfl : step.rest = rest := left
        cases is : step.value with
        | int integer =>
          rw [is] at written
          simp only [Step.map, is] at found
          exact found ▸ .int written
        | float decimal =>
          rw [is] at written
          simp only [Step.map, is] at found
          exact found ▸ .float written
      · split at h
        · exact .word (wordText_of_word h)
        · exact absurd h not_yields_error

theorem NumberStart.told {c : Char} (h : NumberStart c) :
    ¬ isQuote c = true ∧ startsNumber c = true := by
  rcases h with (rfl | rfl) | rfl | digit
  · decide
  · decide
  · decide
  · refine ⟨not_isQuote_of_isDigit digit, ?_⟩
    rw [startsNumber, digit, Bool.or_true]

/-- The value that a number is. -/
def Number.asValue : Number → Value
  | .int integer => .int integer
  | .float decimal => .float decimal

theorem yields_scalar_number {text rest : List Char} {found : Number}
    (h : NumberText text found rest) (delimited : Delimited rest) :
    Yields (scalar text) found.asValue rest := by
  obtain ⟨c, more, rfl, start⟩ := h.start
  obtain ⟨noQuote, number⟩ := start.told
  obtain ⟨step, numberRead, rfl, rfl⟩ :=
    yields_number_iff.mpr (splitNumber_of_numberText h delimited)
  rw [scalar, if_neg noQuote, if_pos number]
  exact yields_bind_iff.mpr ⟨step, numberRead, yields_ok _⟩

theorem Scalar.yields {text rest : List Char} {found : Value} (h : Scalar text found rest)
    (delimited : Delimited rest) : Yields (scalar text) found rest := by
  cases h with
  | word written =>
    obtain ⟨c, more, rfl, start⟩ := written.start
    have told : ∀ c ∈ ['T', 'F', 'N'], ¬ isQuote c = true ∧ ¬ startsNumber c = true ∧
        (Text.isAlphabetic c || c = '_') = true := List.all_iff_forall_prop.mp (by decide)
    obtain ⟨noQuote, noNumber, letter⟩ := told c start
    rw [scalar, if_neg noQuote, if_neg noNumber, if_pos letter]
    exact yields_word written
  | int integer => exact yields_scalar_number integer delimited
  | float decimal => exact yields_scalar_number decimal delimited
  | string strings =>
    obtain ⟨quote, body, rfl, opens⟩ := strings.opens
    obtain ⟨step, stringsRead, rfl, rfl⟩ := strings_of_stringsText strings delimited rfl
    rw [scalar, if_pos opens]
    exact yields_bind_iff.mpr ⟨step, stringsRead, yields_ok _⟩

end DumpDigest.Literal
