import DumpDigest.Proofs.Literal.Reading
import Mathlib.Data.List.TakeWhile

/-!
# Numbers are read as written

`numberText_of_splitNumber` says that what the reader takes for a number is one, and
`splitNumber_of_numberText` that it reads every number, as far as it goes, if nothing that could
belong to the number stands behind it.

Both follow the parts of a numeral: sign, digits, fraction, exponent.  For each part there is a pair
of lemmas: what the reader splits off has the form that the grammar asks for, and a part of that
form is split off again when `NumeralEnds` holds of what is behind it.
-/

namespace DumpDigest.Literal

open Decimal (Numeral splitSign signed)
open Result

/-! ### What is split off a text -/

theorem splitSign_text (text : List Char) :
    (splitSign text).1.toList ++ (splitSign text).2 = text ∧
      ∀ c ∈ (splitSign text).1, IsSign c := by
  unfold splitSign
  split
  · exact ⟨rfl, fun c hc => .inl (Option.some.inj hc).symm⟩
  · exact ⟨rfl, fun c hc => .inr (Option.some.inj hc).symm⟩
  · exact ⟨rfl, fun c hc => by cases hc⟩

theorem splitDigits_digits (text : List Char) : AreDigits (splitDigits text).1 :=
  fun _ hc => List.mem_takeWhile_imp hc

theorem splitFraction_text (text : List Char) :
    fractionText (splitFraction text).1 ++ (splitFraction text).2 = text ∧
      ∀ digits ∈ (splitFraction text).1, AreDigits digits := by
  unfold splitFraction
  split
  · next rest =>
    refine ⟨congrArg ('.' :: ·) (splitDigits_append rest), ?_⟩
    intro digits hd
    exact Option.some.inj hd ▸ splitDigits_digits rest
  · exact ⟨rfl, fun digits hd => by cases hd⟩

/-- An exponent that is split off has a mark, maybe a sign, and digits. -/
theorem splitExponent_text {text rest : List Char} {exponent : Option (Option Char × List Char)}
    (h : splitExponent text = .ok (exponent, rest)) :
    (∃ mark, (mark = 'e' ∨ mark = 'E') ∧ exponentText mark exponent ++ rest = text) ∧
      ∀ parts ∈ exponent,
        (∀ c ∈ parts.1, IsSign c) ∧ AreDigits parts.2 ∧ parts.2 ≠ [] := by
  unfold splitExponent at h
  split at h
  · obtain ⟨rfl, rfl⟩ := Prod.mk.inj (Except.ok.inj h)
    exact ⟨⟨'e', .inl rfl, rfl⟩, fun parts hp => by cases hp⟩
  · next mark behind =>
    split at h
    · next marks =>
      have case : mark = 'e' ∨ mark = 'E' := by simpa using marks
      dsimp only at h
      split at h
      · cases h
      · next digits end_ nonempty split_eq =>
        obtain ⟨rfl, rfl⟩ := Prod.mk.inj (Except.ok.inj h)
        obtain ⟨signed_eq, signs⟩ := splitSign_text behind
        have digits_eq : digits = (splitDigits (splitSign behind).2).1 := by rw [split_eq]
        have digits_append := splitDigits_append (splitSign behind).2
        rw [split_eq] at digits_append
        refine ⟨⟨mark, case, ?_⟩, ?_⟩
        · rw [exponentText, List.cons_append, List.append_assoc, digits_append, signed_eq]
        · intro parts hp
          obtain rfl := Option.some.inj hp
          refine ⟨signs, digits_eq ▸ splitDigits_digits _, ?_⟩
          exact fun empty => nonempty empty
    · obtain ⟨rfl, rfl⟩ := Prod.mk.inj (Except.ok.inj h)
      exact ⟨⟨'e', .inl rfl, rfl⟩, fun parts hp => by cases hp⟩

theorem splitNumeral_text {text rest : List Char} {numeral : Numeral}
    (h : splitNumeral text = .ok (numeral, rest)) :
    Proper numeral ∧
      ∃ mark, (mark = 'e' ∨ mark = 'E') ∧ numeralText mark numeral ++ rest = text := by
  obtain ⟨sign_eq, signs⟩ := splitSign_text text
  have digits_eq := splitDigits_append (splitSign text).2
  have digits := splitDigits_digits (splitSign text).2
  obtain ⟨fraction_eq, fractions⟩ := splitFraction_text (splitDigits (splitSign text).2).2
  simp only [splitNumeral] at h
  split at h
  · cases h
  · next mantissa =>
    obtain ⟨⟨exponent, behind⟩, exponentRead, done⟩ := bind_eq_ok_iff.mp h
    obtain ⟨rfl, rfl⟩ := Prod.mk.inj (Except.ok.inj done)
    obtain ⟨⟨mark, case, exponent_eq⟩, exponents⟩ := splitExponent_text exponentRead
    refine ⟨⟨signs, digits, fractions, ?_, fun parts hp => (exponents parts hp).1,
      fun parts hp => (exponents parts hp).2⟩, mark, case, ?_⟩
    · intro empty
      simp only [Numeral.digits, List.append_eq_nil_iff] at empty
      rw [empty.1, empty.2] at mantissa
      exact mantissa rfl
    · simp only [numeralText, List.append_assoc]
      rw [exponent_eq, fraction_eq, digits_eq, sign_eq]

theorem toInt_of_readInt64 {numeral : Numeral} {number : Int64}
    (h : readInt64 numeral = .ok number) : number.toInt = numeral.toInt := by
  simp only [readInt64] at h
  split at h
  · cases h
  · next low =>
    split at h
    · cases h
    · next high =>
      obtain rfl := Except.ok.inj h
      rw [Int64.toInt_minValue] at low
      rw [Int64.toInt_maxValue] at high
      exact Int64.toInt_ofInt_of_le (by omega) (by omega)

/-- What stands behind a numeral is a mark, which only an integer has, and what is left. -/
theorem dropLongMark_text (numeral : Numeral) (text : List Char) :
    ∃ long, long ++ dropLongMark numeral text = text ∧
      (long = [] ∨ numeral.isFloat = false ∧ (long = ['L'] ∨ long = ['l'])) := by
  unfold dropLongMark
  split
  · exact ⟨[], rfl, .inl rfl⟩
  · next c rest =>
    split
    · next marks =>
      simp only [Bool.and_eq_true, Bool.not_eq_true', Bool.or_eq_true, decide_eq_true_eq] at marks
      refine ⟨[c], rfl, .inr ⟨marks.1, ?_⟩⟩
      simpa using marks.2
    · exact ⟨[], rfl, .inl rfl⟩

theorem wordEnds_of_not_any {rest : List Char} (h : ¬ rest.head?.any isWordCharacter = true) :
    WordEnds rest := by
  intro c hc
  rw [Option.mem_def] at hc
  rw [hc] at h
  simpa using h

theorem parts_of_not_isFloat {numeral : Numeral} (h : numeral.isFloat = false) :
    numeral.fraction = none ∧ numeral.exponent = none := by
  simpa [Numeral.isFloat] using h

theorem numberText_of_integral {numeral : Numeral} {number : Int64} {mark : Char}
    {long rest : List Char} (proper : Proper numeral) (integral : numeral.isFloat = false)
    (case : long = [] ∨ long = ['L'] ∨ long = ['l']) (read : readInt64 numeral = .ok number)
    (ends : WordEnds rest) :
    NumberText (numeralText mark numeral ++ (long ++ rest)) (.int number) rest := by
  obtain ⟨noFraction, noExponent⟩ := parts_of_not_isFloat integral
  have digits : numeral.whole ≠ [] := by
    have mantissa := proper.mantissa
    rwa [Numeral.digits, noFraction, Option.getD_none, List.append_nil] at mantissa
  have written : numeralText mark numeral = numeral.sign.toList ++ numeral.whole := by
    rw [numeralText, noFraction, noExponent, fractionText, exponentText, List.append_nil,
      List.append_nil]
  rw [written, ← List.append_assoc]
  exact .int proper.sign proper.whole digits case (toInt_of_readInt64 read) ends

theorem numberText_of_splitNumber {text rest : List Char} {number : Number}
    (h : splitNumber text = .ok (number, rest)) : NumberText text number rest := by
  obtain ⟨⟨numeral, behind⟩, numeralRead, h⟩ := bind_eq_ok_iff.mp h
  obtain ⟨proper, mark, case, rfl⟩ := splitNumeral_text numeralRead
  dsimp only at h
  split at h
  · cases h
  next noWord =>
  have ends := wordEnds_of_not_any noWord
  obtain ⟨long, dropped, longMark⟩ := dropLongMark_text numeral behind
  split at h
  · cases h
  next value read =>
  obtain ⟨rfl, rfl⟩ := Prod.mk.inj (Except.ok.inj h)
  generalize dropLongMark numeral behind = rest at ends dropped
  subst dropped
  unfold readNumber at read
  split at read
  · next float =>
    obtain rfl := Except.ok.inj read
    rcases longMark with rfl | ⟨integral, -⟩
    · exact .float proper float case ends
    · cases float.symm.trans integral
  · next integral =>
    obtain ⟨integer, integerRead, rfl⟩ := map_eq_ok_iff.mp read
    exact numberText_of_integral proper (Bool.not_eq_true _ ▸ integral)
      (longMark.imp_right And.right) integerRead ends

/-! ### What is written is split off -/

/-- Nothing that belongs to a numeral stands in front of a rest. -/
def NumeralEnds (rest : List Char) : Prop :=
  ∀ c ∈ rest.head?, c.isDigit = false ∧ c ≠ '.' ∧ c ≠ 'e' ∧ c ≠ 'E'

theorem not_isSign_of_isDigit {c : Char} (digit : c.isDigit = true) : ¬ IsSign c := by
  rintro (rfl | rfl) <;> exact absurd digit (by decide)

theorem splitSign_append {sign : Option Char} {text : List Char} (signs : ∀ c ∈ sign, IsSign c)
    (unsigned : ∀ c ∈ text.head?, ¬ IsSign c) : splitSign (sign.toList ++ text) = (sign, text) := by
  cases sign with
  | none =>
    rw [Option.toList_none, List.nil_append]
    unfold splitSign
    split
    · exact absurd (.inl rfl) (unsigned '-' rfl)
    · exact absurd (.inr rfl) (unsigned '+' rfl)
    · rfl
  | some c =>
    rcases signs c rfl with rfl | rfl
    · rfl
    · rfl

theorem takeWhile_eq_nil_of_head {p : Char → Bool} {text : List Char}
    (stops : ∀ c ∈ text.head?, p c = false) : text.takeWhile p = [] ∧ text.dropWhile p = text := by
  cases text with
  | nil => exact ⟨rfl, rfl⟩
  | cons c text =>
    rw [List.takeWhile_cons, List.dropWhile_cons, stops c rfl]
    exact ⟨rfl, rfl⟩

theorem splitDigits_of_digits {digits rest : List Char} (are : AreDigits digits)
    (stops : ∀ c ∈ rest.head?, c.isDigit = false) :
    splitDigits (digits ++ rest) = (digits, rest) := by
  obtain ⟨none, all⟩ := takeWhile_eq_nil_of_head stops
  rw [splitDigits, List.takeWhile_append_of_pos are, List.dropWhile_append_of_pos are, none, all,
    List.append_nil]

theorem splitFraction_append {fraction : Option (List Char)} {rest : List Char}
    (are : ∀ digits ∈ fraction, AreDigits digits)
    (stops : ∀ c ∈ rest.head?, c.isDigit = false ∧ c ≠ '.') :
    splitFraction (fractionText fraction ++ rest) = (fraction, rest) := by
  cases fraction with
  | none =>
    rw [fractionText, List.nil_append]
    unfold splitFraction
    split
    · exact absurd rfl (stops '.' rfl).2
    · rfl
  | some digits =>
    rw [fractionText, List.cons_append, splitFraction,
      splitDigits_of_digits (are digits rfl) fun c hc => (stops c hc).1]

theorem splitExponent_append {mark : Char} {exponent : Option (Option Char × List Char)}
    {rest : List Char} (case : mark = 'e' ∨ mark = 'E')
    (signs : ∀ parts ∈ exponent, ∀ c ∈ parts.1, IsSign c)
    (are : ∀ parts ∈ exponent, AreDigits parts.2 ∧ parts.2 ≠ []) (ends : NumeralEnds rest) :
    splitExponent (exponentText mark exponent ++ rest) = .ok (exponent, rest) := by
  cases exponent with
  | none =>
    rw [exponentText, List.nil_append]
    cases rest with
    | nil => rfl
    | cons c rest =>
      obtain ⟨-, -, noSmall, noLarge⟩ := ends c rfl
      simp [splitExponent, noSmall, noLarge]
  | some parts =>
    obtain ⟨sign, digits⟩ := parts
    obtain ⟨digit, nonempty⟩ := are _ rfl
    have unsigned : ∀ c ∈ (digits ++ rest).head?, ¬ IsSign c := by
      intro c hc
      rw [List.head?_append_of_ne_nil _ nonempty] at hc
      exact not_isSign_of_isDigit (digit c (List.mem_of_mem_head? hc))
    have marks : (mark = 'e' || mark = 'E') = true := by simpa using case
    rw [exponentText, List.cons_append, List.append_assoc, splitExponent]
    simp only [marks, if_true, splitSign_append (signs _ rfl) unsigned,
      splitDigits_of_digits digit fun c hc => (ends c hc).1]

theorem exponentText_head {mark : Char} (case : mark = 'e' ∨ mark = 'E')
    (exponent : Option (Option Char × List Char)) {rest : List Char} (ends : NumeralEnds rest) :
    ∀ c ∈ (exponentText mark exponent ++ rest).head?, c.isDigit = false ∧ c ≠ '.' := by
  intro c hc
  cases exponent with
  | none => exact ⟨(ends c hc).1, (ends c hc).2.1⟩
  | some parts =>
    obtain rfl : mark = c := Option.some.inj hc
    rcases case with rfl | rfl <;> decide

theorem fractionText_head {mark : Char} (case : mark = 'e' ∨ mark = 'E')
    (fraction : Option (List Char)) (exponent : Option (Option Char × List Char))
    {rest : List Char} (ends : NumeralEnds rest) :
    ∀ c ∈ (fractionText fraction ++ (exponentText mark exponent ++ rest)).head?,
      c.isDigit = false := by
  intro c hc
  cases fraction with
  | none => exact (exponentText_head case exponent ends c hc).1
  | some digits =>
    obtain rfl : '.' = c := Option.some.inj hc
    decide

theorem Proper.unsigned_head {numeral : Numeral} (proper : Proper numeral) (rest : List Char) :
    ∀ c ∈ (numeral.whole ++ (fractionText numeral.fraction ++ rest)).head?, ¬ IsSign c := by
  intro c hc
  have mantissa := proper.mantissa
  rw [Numeral.digits] at mantissa
  cases whole : numeral.whole with
  | cons d digits =>
    rw [whole] at hc
    obtain rfl : d = c := Option.some.inj hc
    exact not_isSign_of_isDigit (proper.whole d (by rw [whole]; exact List.mem_cons_self))
  | nil =>
    cases fraction : numeral.fraction with
    | none => exact absurd (by rw [whole, fraction]; rfl) mantissa
    | some digits =>
      rw [whole, fraction] at hc
      obtain rfl : '.' = c := Option.some.inj hc
      rintro (h | h) <;> exact absurd h (by decide)

theorem splitNumeral_append {mark : Char} {numeral : Numeral} {rest : List Char}
    (proper : Proper numeral) (case : mark = 'e' ∨ mark = 'E') (ends : NumeralEnds rest) :
    splitNumeral (numeralText mark numeral ++ rest) = .ok (numeral, rest) := by
  have mantissa : (numeral.whole.isEmpty && (numeral.fraction.getD []).isEmpty) = false := by
    have nonempty := proper.mantissa
    rw [Numeral.digits] at nonempty
    simpa [List.append_eq_nil_iff] using nonempty
  simp only [numeralText, List.append_assoc, splitNumeral]
  simp only [splitSign_append proper.sign (proper.unsigned_head _),
    splitDigits_of_digits proper.whole
      (fractionText_head case numeral.fraction numeral.exponent ends),
    splitFraction_append proper.fraction (exponentText_head case numeral.exponent ends),
    splitExponent_append case proper.exponentSign proper.exponentDigits ends, mantissa]
  rfl

theorem isWordCharacter_of_isDigit {c : Char} (digit : c.isDigit = true) :
    isWordCharacter c = true := by
  have small : c.toNat < 0x80 := by
    simp only [Char.isDigit, Bool.and_eq_true, decide_eq_true_eq, UInt32.le_iff_toNat_le] at digit
    exact Nat.lt_of_le_of_lt digit.2 (by decide)
  rw [isWordCharacter, Text.isAlphanumeric, Text.isNumeric, if_pos small, digit, Bool.or_true,
    Bool.true_or]

theorem Delimited.numeralEnds {rest : List Char} (h : Delimited rest) : NumeralEnds rest := by
  intro c hc
  obtain ⟨noWord, noPoint⟩ := h.head c hc
  refine ⟨?_, noPoint, ?_, ?_⟩
  · rw [Bool.eq_false_iff]
    intro digit
    rw [isWordCharacter_of_isDigit digit] at noWord
    cases noWord
  · rintro rfl
    exact absurd noWord (by decide)
  · rintro rfl
    exact absurd noWord (by decide)

theorem readInt64_of_toInt {numeral : Numeral} {number : Int64}
    (value : number.toInt = numeral.toInt) : readInt64 numeral = .ok number := by
  have low := number.le_toInt
  have high := number.toInt_lt
  rw [readInt64, if_neg (by rw [← value, Int64.toInt_minValue]; omega),
    if_neg (by rw [← value, Int64.toInt_maxValue]; omega), ← value, Int64.ofInt_toInt]

theorem not_any_of_wordEnds {rest : List Char} (h : WordEnds rest) :
    ¬ rest.head?.any isWordCharacter = true := by
  cases rest with
  | nil => decide
  | cons c rest =>
    rw [List.head?_cons, Option.any_some, h c rfl]
    decide

theorem splitNumber_of_numeral {text behind rest : List Char} {numeral : Numeral} {number : Number}
    (numeralRead : splitNumeral text = .ok (numeral, behind))
    (dropped : dropLongMark numeral behind = rest) (ends : WordEnds rest)
    (read : readNumber numeral = .ok number) : splitNumber text = .ok (number, rest) := by
  subst dropped
  refine bind_eq_ok_iff.mpr ⟨_, numeralRead, ?_⟩
  dsimp only
  rw [if_neg (not_any_of_wordEnds ends), read]
  rfl

theorem NumeralEnds.long {long rest : List Char} (ends : NumeralEnds rest)
    (mark : long = [] ∨ long = ['L'] ∨ long = ['l']) : NumeralEnds (long ++ rest) := by
  rcases mark with rfl | rfl | rfl
  · exact ends
  · rintro c ⟨⟩
    decide
  · rintro c ⟨⟩
    decide

theorem dropLongMark_long {numeral : Numeral} {long rest : List Char}
    (integral : numeral.isFloat = false) (mark : long = [] ∨ long = ['L'] ∨ long = ['l'])
    (ends : WordEnds rest) : dropLongMark numeral (long ++ rest) = rest := by
  rcases mark with rfl | rfl | rfl
  · cases rest with
    | nil => rfl
    | cons c rest =>
      have noMark : c ≠ 'L' ∧ c ≠ 'l' := by
        constructor <;> rintro rfl <;> exact absurd (ends _ rfl) (by decide)
      simp [dropLongMark, noMark.1, noMark.2]
  · simp [dropLongMark, integral]
  · simp [dropLongMark, integral]

theorem dropLongMark_float {numeral : Numeral} (float : numeral.isFloat = true)
    (rest : List Char) : dropLongMark numeral rest = rest := by
  cases rest with
  | nil => rfl
  | cons c rest => simp [dropLongMark, float]

theorem splitNumber_of_numberText {text rest : List Char} {number : Number}
    (h : NumberText text number rest) (delimited : Delimited rest) :
    splitNumber text = .ok (number, rest) := by
  have ends := delimited.numeralEnds
  cases h with
  | @int sign digits long _ integer signs digit nonempty mark value wordEnds =>
    have proper : Proper ⟨sign, digits, none, none⟩ :=
      ⟨signs, digit, fun _ h => (by cases h), by simpa [Numeral.digits] using nonempty,
        fun _ h => (by cases h), fun _ h => (by cases h)⟩
    have written : sign.toList ++ digits ++ long ++ rest =
        numeralText 'e' ⟨sign, digits, none, none⟩ ++ (long ++ rest) := by
      simp [numeralText, fractionText, exponentText]
    have integral : Numeral.isFloat ⟨sign, digits, none, none⟩ = false := rfl
    rw [written]
    refine splitNumber_of_numeral (splitNumeral_append proper (.inl rfl) (ends.long mark))
      (dropLongMark_long integral mark wordEnds) wordEnds ?_
    rw [readNumber, integral, if_neg (by decide), readInt64_of_toInt value]
    rfl
  | @float numeral mark _ proper float case wordEnds =>
    refine splitNumber_of_numeral (splitNumeral_append proper case ends)
      (dropLongMark_float float rest) wordEnds ?_
    rw [readNumber, if_pos float]

/-! ### The reader of numbers -/

theorem yields_number_iff {text rest : List Char} {found : Number} :
    Yields (number text) found rest ↔ splitNumber text = .ok (found, rest) := by
  unfold number
  split
  · next fault read =>
    rw [read]
    exact ⟨fun ⟨_, h, _⟩ => (by cases h), fun h => (by cases h)⟩
  · next found' rest' read =>
    constructor
    · rintro ⟨_, h, rfl, rfl⟩
      obtain rfl := Except.ok.inj h
      exact read
    · intro h
      obtain ⟨rfl, rfl⟩ := Prod.mk.inj (Except.ok.inj (read.symm.trans h))
      exact yields_ok _

end DumpDigest.Literal
