import DumpDigest.Decimal.Numeral
import DumpDigest.Literal.Parser
import DumpDigest.Text.Letter

/-! # Numbers

A number is an optional sign, digits with at most one point, and for floats an optional exponent. It
is an integer when it has neither point nor exponent; then it may end in `L`, and its value has to
fit into 64 bits. A float denotes the float nearest to its decimal value, the even one at a tie.
-/

namespace DumpDigest.Literal

open Decimal (Numeral splitSign splitSign_suffix)
open Text (Step)

/-- Whether a character may stand in a word or, which is a mistake, behind a number. -/
def isWordCharacter (c : Char) : Bool :=
  Text.isAlphanumeric c || c = '_'

/-- A number. -/
inductive Number where
  | int (number : Int64)
  | float (number : Float)

/-- The integer of a numeral, if it fits into 64 bits. -/
def readInt64 (numeral : Numeral) : Except Cause Int64 :=
  let value := numeral.toInt
  if value < Int64.minValue.toInt then .error (.integerTooSmall numeral.integerText)
  else if Int64.maxValue.toInt < value then .error (.integerTooLarge numeral.integerText)
  else .ok (Int64.ofInt value)

/-- The number that a numeral stands for. -/
def readNumber (numeral : Numeral) : Except Cause Number :=
  if numeral.isFloat then .ok (.float numeral.toFloat) else (readInt64 numeral).map .int

/-- The digits in front of a text and what follows them. -/
def splitDigits (text : List Char) : List Char × List Char :=
  (text.takeWhile Char.isDigit, text.dropWhile Char.isDigit)

/-- An optional point with the digits behind it, and what follows. -/
def splitFraction : List Char → Option (List Char) × List Char
  | '.' :: rest => (some (splitDigits rest).1, (splitDigits rest).2)
  | text => (none, text)

/-- An optional exponent and what follows it; a mark without digits is refused. -/
def splitExponent (text : List Char) :
    Except Fault (Option (Option Char × List Char) × List Char) :=
  match text with
  | [] => .ok (none, [])
  | mark :: rest =>
    if mark = 'e' || mark = 'E' then
      let (sign, digits) := splitSign rest
      match splitDigits digits with
      | ([], _) => .error ⟨.malformedExponent, text⟩
      | (digits, rest) => .ok (some (sign, digits), rest)
    else .ok (none, text)

/-- What follows the mark of a long integer, which only an integer may have. -/
def dropLongMark (numeral : Numeral) : List Char → List Char
  | [] => []
  | c :: rest => if !numeral.isFloat && (c = 'L' || c = 'l') then rest else c :: rest

/-- The numeral in front of a text and what follows it; it needs a digit before or behind its
point. -/
def splitNumeral (text : List Char) : Except Fault (Numeral × List Char) := do
  let (sign, unsigned) := splitSign text
  let (whole, behindWhole) := splitDigits unsigned
  let (fraction, behindFraction) := splitFraction behindWhole
  if whole.isEmpty && (fraction.getD []).isEmpty then
    throw ⟨.expectedDigits, text⟩
  let (exponent, rest) ← splitExponent behindFraction
  return (⟨sign, whole, fraction, exponent⟩, rest)

/-- The number in front of a text and what follows it, which must not continue the number. -/
def splitNumber (text : List Char) : Except Fault (Number × List Char) := do
  let (numeral, behind) ← splitNumeral text
  let rest := dropLongMark numeral behind
  if rest.head?.any isWordCharacter then
    throw ⟨.characterAfterNumber, rest⟩
  match readNumber numeral with
  | .error cause => throw ⟨cause, text⟩
  | .ok number => return (number, rest)

/-! ### What remains behind a number -/

theorem splitDigits_append (text : List Char) :
    (splitDigits text).1 ++ (splitDigits text).2 = text :=
  List.takeWhile_append_dropWhile

theorem splitDigits_suffix (text : List Char) : (splitDigits text).2 <:+ text :=
  ⟨_, splitDigits_append text⟩

theorem splitFraction_suffix (text : List Char) : (splitFraction text).2 <:+ text := by
  unfold splitFraction
  split
  · exact (splitDigits_suffix _).trans (List.suffix_cons _ _)
  · exact List.suffix_rfl

/-- The digits behind a point are read from the text. -/
theorem splitFraction_length (text : List Char) :
    ((splitFraction text).1.getD []).length + (splitFraction text).2.length ≤ text.length := by
  unfold splitFraction
  split
  · next rest =>
    have := congrArg List.length (splitDigits_append rest)
    simp at this ⊢
    omega
  · simp

theorem splitExponent_suffix {text : List Char} {parts}
    (h : splitExponent text = .ok parts) : parts.2 <:+ text := by
  unfold splitExponent at h
  split at h
  · obtain rfl := Except.ok.inj h
    exact List.suffix_rfl
  · next mark rest =>
    split at h
    · dsimp only at h
      split at h
      · cases h
      · next digits behind _ split_eq =>
        obtain rfl := Except.ok.inj h
        have behind_eq : behind = (splitDigits (splitSign rest).2).2 := by rw [split_eq]
        rw [behind_eq]
        exact ((splitDigits_suffix _).trans (splitSign_suffix rest)).trans
          (List.suffix_cons _ _)
    · obtain rfl := Except.ok.inj h
      exact List.suffix_rfl

theorem dropLongMark_suffix (numeral : Numeral) (text : List Char) :
    dropLongMark numeral text <:+ text := by
  unfold dropLongMark
  split
  · exact List.suffix_rfl
  · split
    · exact List.suffix_cons _ _
    · exact List.suffix_rfl

/-- A numeral has at least one digit, so that less remains behind it. -/
theorem splitNumeral_shortens {text : List Char} {parts} (h : splitNumeral text = .ok parts) :
    parts.2 <:+ text ∧ parts.2.length < text.length := by
  simp only [splitNumeral, bind, Except.bind, throw, throwThe, MonadExceptOf.throw, pure,
    Except.pure] at h
  split at h
  · cases h
  · next hasDigit =>
    split at h
    · cases h
    · next exponentParts exponentRead =>
      obtain rfl := Except.ok.inj h
      have hExponent := splitExponent_suffix exponentRead
      have hFraction := splitFraction_suffix (splitDigits (splitSign text).2).2
      have hWhole := splitDigits_suffix (splitSign text).2
      have hSign := splitSign_suffix text
      refine ⟨((hExponent.trans hFraction).trans hWhole).trans hSign, ?_⟩
      have wholeLength := congrArg List.length (splitDigits_append (splitSign text).2)
      have fractionLength := splitFraction_length (splitDigits (splitSign text).2).2
      have := hExponent.length_le
      have := hSign.length_le
      simp only [Bool.and_eq_true, List.isEmpty_iff, ← List.length_eq_zero_iff, not_and]
        at hasDigit
      simp only [List.length_append] at wholeLength
      dsimp only
      omega

theorem splitNumber_shortens {text : List Char} {parts} (h : splitNumber text = .ok parts) :
    parts.2 <:+ text ∧ parts.2.length < text.length := by
  simp only [splitNumber, bind, Except.bind, throw, throwThe, MonadExceptOf.throw, pure,
    Except.pure] at h
  split at h
  · cases h
  · next numeralParts numeralRead =>
    obtain ⟨suffix, shorter⟩ := splitNumeral_shortens numeralRead
    have behind := dropLongMark_suffix numeralParts.1 numeralParts.2
    generalize dropLongMark numeralParts.1 numeralParts.2 = rest at h behind
    split at h
    · cases h
    · split at h
      · cases h
      · obtain rfl := Except.ok.inj h
        exact ⟨behind.trans suffix, Nat.lt_of_le_of_lt behind.length_le shorter⟩

/-- The number in front of a text. -/
def number : Parser Number := fun text =>
  match h : splitNumber text with
  | .error fault => .error fault
  | .ok (number, rest) =>
    .ok ⟨number, rest, (splitNumber_shortens h).1, (splitNumber_shortens h).2⟩

end DumpDigest.Literal
