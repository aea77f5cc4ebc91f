import DumpDigest.Literal.Parse

/-!
# The grammar of literals

What a literal is and what it stands for, written down without the parser.

A `Grammar α` relates a text, a meaning of type `α`, and a rest: the text is a piece with that
meaning in front of that rest.  Carrying the rest along lets a rule speak about what follows a
piece, which numbers and words need: no letter, digit or underscore may stand right behind them.

`LiteralText levels` is the grammar of literals with at most `levels` containers inside one another.
A container is described over the grammar of what it contains, by `Sequence` and `EntryText`, so the
levels are the only recursion.
-/

namespace DumpDigest.Literal

open Decimal (Numeral)

/-- Which texts are a piece of some meaning in front of some rest. -/
abbrev Grammar (α : Type) := List Char → α → List Char → Prop

/-! ### White space and comments -/

/-- White space and comments between a text and a rest.  A comment runs from `#` to the end of its
line, or to the end of the text. -/
inductive Trivia : List Char → List Char → Prop
  | none (text : List Char) : Trivia text text
  | blank {c : Char} {text rest : List Char} (blank : Text.isBlank c = true)
      (more : Trivia text rest) : Trivia (c :: text) rest
  | comment {line text rest : List Char} (oneLine : '\n' ∉ line) (more : Trivia text rest) :
      Trivia ('#' :: (line ++ '\n' :: text)) rest
  | lastComment {line : List Char} (oneLine : '\n' ∉ line) : Trivia ('#' :: line) []

/-! ### Numbers and words -/

/-- No letter, number or underscore stands in front of a rest. -/
def WordEnds (rest : List Char) : Prop :=
  ∀ c ∈ rest.head?, isWordCharacter c = false

/-- A character is a sign. -/
def IsSign (c : Char) : Prop := c = '-' ∨ c = '+'

/-- All characters are decimal digits. -/
def AreDigits (digits : List Char) : Prop :=
  ∀ c ∈ digits, c.isDigit = true

/-- A numeral made of signs and digits, with a digit on one side of its point at least and one in
its exponent. -/
structure Proper (numeral : Numeral) : Prop where
  sign : ∀ c ∈ numeral.sign, IsSign c
  whole : AreDigits numeral.whole
  fraction : ∀ digits ∈ numeral.fraction, AreDigits digits
  mantissa : numeral.digits ≠ []
  exponentSign : ∀ exponent ∈ numeral.exponent, ∀ c ∈ exponent.1, IsSign c
  exponentDigits : ∀ exponent ∈ numeral.exponent, AreDigits exponent.2 ∧ exponent.2 ≠ []

/-- A point and the digits behind it. -/
def fractionText : Option (List Char) → List Char
  | none => []
  | some digits => '.' :: digits

/-- The mark of an exponent, its sign and its digits. -/
def exponentText (mark : Char) : Option (Option Char × List Char) → List Char
  | none => []
  | some (sign, digits) => mark :: (sign.toList ++ digits)

/-- The text of a numeral. -/
def numeralText (mark : Char) (numeral : Numeral) : List Char :=
  numeral.sign.toList ++ numeral.whole ++ fractionText numeral.fraction ++
    exponentText mark numeral.exponent

/-- **Numbers.**  An integer is an optional sign, digits and an optional `L`, and its value fits
into 64 bits.  A float has a point or an exponent and stands for what the numeral reads as. -/
inductive NumberText : Grammar Number
  | int {sign : Option Char} {digits long rest : List Char} {number : Int64}
      (signs : ∀ c ∈ sign, IsSign c) (digit : AreDigits digits) (nonempty : digits ≠ [])
      (mark : long = [] ∨ long = ['L'] ∨ long = ['l'])
      (value : number.toInt = Decimal.signed sign (Text.digitsValue 10 digits))
      (ends : WordEnds rest) :
      NumberText (sign.toList ++ digits ++ long ++ rest) (.int number) rest
  | float {numeral : Numeral} {mark : Char} {rest : List Char} (proper : Proper numeral)
      (float : numeral.isFloat = true) (case : mark = 'e' ∨ mark = 'E') (ends : WordEnds rest) :
      NumberText (numeralText mark numeral ++ rest) (.float numeral.toFloat) rest

/-- The three words. -/
inductive WordText : Grammar Value
  | true {rest : List Char} (ends : WordEnds rest) :
      WordText ('T' :: 'r' :: 'u' :: 'e' :: rest) (.bool true) rest
  | false {rest : List Char} (ends : WordEnds rest) :
      WordText ('F' :: 'a' :: 'l' :: 's' :: 'e' :: rest) (.bool false) rest
  | none {rest : List Char} (ends : WordEnds rest) :
      WordText ('N' :: 'o' :: 'n' :: 'e' :: rest) .none rest

/-! ### Strings -/

/-- The escapes of one letter and what they stand for. -/
def escapes : List (Char × Char) :=
  [('\\', '\\'), ('\'', '\''), ('"', '"'), ('n', '\n'), ('t', '\t'), ('r', '\r'), ('a', '\x07'),
    ('b', '\x08'), ('f', '\x0c'), ('v', '\x0b'), ('0', '\x00')]

/-- What may stand between quotes, as text and as meaning: a character that is no quote, no
backslash and no line break; a known escape; two hexadecimal digits behind `\x`; and any other
character behind a backslash, where both stand for themselves. -/
inductive StringPart (quote : Char) : List Char → List Char → Prop
  | plain {c : Char} (noQuote : c ≠ quote) (noBackslash : c ≠ '\\') (noBreak : c ≠ '\n') :
      StringPart quote [c] [c]
  | known {c meant : Char} (known : escapes.lookup c = some meant) :
      StringPart quote ['\\', c] [meant]
  | hexadecimal {high low : Char} {h l : Nat} (first : Text.hexDigit? high = some h)
      (second : Text.hexDigit? low = some l) :
      StringPart quote ['\\', 'x', high, low] [Char.ofNat (16 * h + l)]
  | unknown {c : Char} (noHexadecimal : c ≠ 'x') (unknown : escapes.lookup c = none) :
      StringPart quote ['\\', c] ['\\', c]

/-- The parts of a string and its closing quote. -/
inductive QuotedText (quote : Char) : Grammar (List Char)
  | close (rest : List Char) : QuotedText quote (quote :: rest) [] rest
  | part {piece meant text others rest : List Char} (part : StringPart quote piece meant)
      (more : QuotedText quote text others rest) :
      QuotedText quote (piece ++ text) (meant ++ others) rest

/-- **Strings.**  One or more quoted strings next to one another stand for what they stand for one
after the other. -/
inductive StringsText : Grammar (List Char)
  | one {quote : Char} {body meant rest : List Char} (opens : isQuote quote = true)
      (string : QuotedText quote body meant rest) : StringsText (quote :: body) meant rest
  | more {quote : Char} {body meant behind next others rest : List Char}
      (opens : isQuote quote = true) (string : QuotedText quote body meant behind)
      (apart : Trivia behind next) (strings : StringsText next others rest) :
      StringsText (quote :: body) (meant ++ others) rest

/-! ### Containers -/

/-- One or more items with commas between them up to a closing bracket, maybe a comma in front of
the bracket; the flag tells whether there is one. -/
inductive Elements {α : Type} (item : Grammar α) (close : Char) : Grammar (List α × Bool)
  | last {text start behind rest : List Char} {value : α} (before : Trivia text start)
      (first : item start value behind) (after : Trivia behind (close :: rest)) :
      Elements item close text ([value], false) rest
  | comma {text start behind next rest : List Char} {value : α} (before : Trivia text start)
      (first : item start value behind) (after : Trivia behind (',' :: next))
      (closes : Trivia next (close :: rest)) : Elements item close text ([value], true) rest
  | more {text start behind next rest : List Char} {value : α} {others : List α} {comma : Bool}
      (before : Trivia text start) (first : item start value behind)
      (after : Trivia behind (',' :: next))
      (further : Elements item close next (others, comma) rest) :
      Elements item close text (value :: others, comma) rest

/-- Any number of items up to a closing bracket. -/
inductive Sequence {α : Type} (item : Grammar α) (close : Char) : Grammar (List α × Bool)
  | empty {text rest : List Char} (closes : Trivia text (close :: rest)) :
      Sequence item close text ([], false) rest
  | elements {text rest : List Char} {items : List α × Bool}
      (elements : Elements item close text items rest) : Sequence item close text items rest

/-- A key of a mapping: a string or an integer. -/
inductive KeyText : Grammar Key
  | string {text meant rest : List Char} (strings : StringsText text meant rest) :
      KeyText text (.string (String.ofList meant)) rest
  | int {text rest : List Char} {number : Int64} (integer : NumberText text (.int number) rest) :
      KeyText text (.int number) rest

/-- An entry of a mapping: a key, a colon and a value. -/
inductive EntryText (value : Grammar Value) : Grammar (Key × Value)
  | mk {text behind next start rest : List Char} {key : Key} {held : Value}
      (named : KeyText text key behind) (colon : Trivia behind (':' :: next))
      (before : Trivia next start) (holds : value start held rest) :
      EntryText value text (key, held) rest

/-- **Mappings.**  String keys, or no keys at all, make a record; integer keys make a distribution,
and their values must be integers that are not negative.  Of two entries with one key the later
counts. -/
inductive MappingMeans : List (Key × Value) → Value → Prop
  | record {entries : List (String × Value)} {fields : Record}
      (stored : ∀ key, fields.find? key = entries.reverse.lookup key) :
      MappingMeans (entries.map fun (key, value) => (.string key, value)) (.record fields)
  | distribution {entries : List (Int64 × Int64)} {counts : Distribution} (nonempty : entries ≠ [])
      (counted : ∀ entry ∈ entries, 0 ≤ entry.2)
      (stored : ∀ key, counts.find? key = (entries.reverse.lookup key).map Int64.toUInt64) :
      MappingMeans (entries.map fun (key, count) => (.int key, .int count)) (.distribution counts)

/-- **Containers** of things of a grammar: a list, a mapping, a value in parentheses, or a tuple,
which stands for a list and is told from a value in parentheses by its commas. -/
inductive Container (inner : Grammar Value) : Grammar Value
  | list {body rest : List Char} {items : List Value} {comma : Bool}
      (sequence : Sequence inner ']' body (items, comma) rest) :
      Container inner ('[' :: body) (.list items) rest
  | parenthesized {body rest : List Char} {value : Value}
      (sequence : Sequence inner ')' body ([value], false) rest) :
      Container inner ('(' :: body) value rest
  | tuple {body rest : List Char} {items : List Value} {comma : Bool}
      (sequence : Sequence inner ')' body (items, comma) rest)
      (told : items.length = 1 → comma = true) : Container inner ('(' :: body) (.list items) rest
  | mapping {body rest : List Char} {entries : List (Key × Value)} {comma : Bool} {value : Value}
      (sequence : Sequence (EntryText inner) '\x7d' body (entries, comma) rest)
      (means : MappingMeans entries value) : Container inner ('\x7b' :: body) value rest

/-- Literals without containers. -/
inductive Scalar : Grammar Value
  | word {text rest : List Char} {value : Value} (word : WordText text value rest) :
      Scalar text value rest
  | int {text rest : List Char} {number : Int64} (integer : NumberText text (.int number) rest) :
      Scalar text (.int number) rest
  | float {text rest : List Char} {number : Float}
      (decimal : NumberText text (.float number) rest) : Scalar text (.float number) rest
  | string {text meant rest : List Char} (strings : StringsText text meant rest) :
      Scalar text (.string (String.ofList meant)) rest

/-- **Literals** with at most `levels` containers inside one another. -/
def LiteralText : (levels : Nat) → Grammar Value
  | 0 => Scalar
  | levels + 1 => fun text value rest =>
    Scalar text value rest ∨ Container (LiteralText levels) text value rest

end DumpDigest.Literal
