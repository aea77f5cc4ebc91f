import DumpDigest.Decimal.Numeral
import DumpDigest.Toml.Basic
import DumpDigest.Toml.Reader

/-! # Numbers, flags, dates

A value that is neither a string nor a container is a run of letters, digits and a few marks, which
as a whole is a flag, an integer, a float, a date or a time. Digits may be parted by single
underscores. An integer has no zeros in front of it, fits into 64 bits, and may be written without a
sign in the bases 16, 8 and 2.
-/

namespace DumpDigest.Toml

open Decimal (Numeral splitSign signed)
open Text (Step)

/-- Whether a character may stand in such a value. -/
def isScalarCharacter (c : Char) : Bool :=
  c.isAlphanum || c = '+' || c = '-' || c = '.' || c = '_' || c = ':'

/-- The digits of a text that consists of digits and single underscores between them. -/
def digits? (isDigit : Char → Bool) : List Char → Option (List Char)
  | [] => none
  | [c] => if isDigit c then some [c] else none
  | c :: '_' :: rest => if isDigit c then (c :: ·) <$> digits? isDigit rest else none
  | c :: rest => if isDigit c then (c :: ·) <$> digits? isDigit rest else none

/-- The decimal digits of a text that has no zero in front of another digit. -/
def wholeDigits? (text : List Char) : Option (List Char) := do
  let digits ← digits? Char.isDigit text
  if digits.head? = some '0' && text.length ≠ 1 then none else some digits

/-- An integer that fits into 64 bits. -/
def int64? (n : Int) : Option Int64 :=
  if Int64.minValue.toInt ≤ n && n ≤ Int64.maxValue.toInt then some (Int64.ofInt n) else none

/-- The integer of digits in a base. -/
def integerOf? (base : Nat) (text : List Char) : Option Int64 := do
  let digits ← digits? (Text.isDigitOf base) text
  int64? (Text.digitsValue base digits)

/-- The integer of a text. -/
def integer? : List Char → Option Int64
  | '0' :: 'x' :: text => integerOf? 16 text
  | '0' :: 'o' :: text => integerOf? 8 text
  | '0' :: 'b' :: text => integerOf? 2 text
  | text => do
    let digits ← wholeDigits? (splitSign text).2
    int64? (signed (splitSign text).1 (Text.digitsValue 10 digits))

/-- Whether a character opens an exponent. -/
def opensExponent (c : Char) : Bool :=
  c = 'e' || c = 'E'

/-- The digits behind a point. -/
def fraction? : List Char → Option (Option (List Char))
  | [] => some none
  | '.' :: text => some <$> digits? Char.isDigit text
  | _ => none

/-- The sign and the digits of an exponent. -/
def exponent? : List Char → Option (Option (Option Char × List Char))
  | [] => some none
  | _ :: text => do
    let digits ← digits? Char.isDigit (splitSign text).2
    return some ((splitSign text).1, digits)

/-- The numeral of a text with a point or an exponent. -/
def numeral? (text : List Char) : Option Numeral := do
  let (sign, unsigned) := splitSign text
  let mantissa := unsigned.takeWhile (!opensExponent ·)
  let whole ← wholeDigits? (mantissa.takeWhile (· ≠ '.'))
  let fraction ← fraction? (mantissa.dropWhile (· ≠ '.'))
  let exponent ← exponent? (unsigned.dropWhile (!opensExponent ·))
  let numeral : Numeral := ⟨sign, whole, fraction, exponent⟩
  if numeral.isFloat then some numeral else none

/-- The float of a text: infinite or not a number by name, else a numeral. A numeral beyond all
finite floats is refused unless it is negative. -/
def float? (text : List Char) : Option Float :=
  let (sign, unsigned) := splitSign text
  let withSign (x : Float) : Float := if sign = some '-' then -x else x
  match String.ofList unsigned with
  | "inf" => some (withSign (1.0 / 0.0))
  | "nan" => some (withSign (0.0 / 0.0))
  | _ => do
    let numeral ← numeral? text
    if numeral.magnitude.isInf && numeral.sign ≠ some '-' then none else some numeral.toFloat

/-- The flag of a text. -/
def flag? (text : List Char) : Option Bool :=
  match String.ofList text with
  | "true" => some true
  | "false" => some false
  | _ => none

/-- The value of a run of characters. -/
def scalar? (text : List Char) : Option Value :=
  (.boolean <$> flag? text) <|> (.integer <$> integer? text) <|> (.float <$> float? text) <|>
    (.dateTime <$> Calendar.DateTime.read? text)

/-- The run of characters in front of a text. -/
def run : Reader (List Char)
  | [] => none
  | c :: rest =>
    if isScalarCharacter c then
      some ⟨c :: rest.takeWhile isScalarCharacter, rest.dropWhile isScalarCharacter,
        (List.dropWhile_suffix _).trans (List.suffix_cons c rest),
        Nat.lt_succ_of_le (List.dropWhile_suffix _).length_le⟩
    else none

/-- The run in front of a text, with a second one if a blank parts a date from a digit. -/
def runs : Reader (List Char) := fun text => do
  let first ← run text
  match follows : first.rest with
  | ' ' :: c :: rest =>
    if c.isDigit && (Calendar.Date.read? first.value).isSome then
      let second ← run (c :: rest)
      have suffix : c :: rest <:+ first.rest := follows ▸ List.suffix_cons ' ' (c :: rest)
      return (second.map fun time => first.value ++ ' ' :: time).widen (suffix.trans first.suffix)
    else return first
  | _ => return first

/-- The value in front of a text that is neither a string nor a container. -/
def scalar : Reader Value := fun text => do
  let step ← runs text
  let value ← scalar? step.value
  return step.map fun _ => value

end DumpDigest.Toml
