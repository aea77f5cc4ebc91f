import DumpDigest.Value.Display

/-! # Why and where a literal is refused

A parser step knows the text that remains in front of it. A fault therefore names the place of a
mistake by what remains there, and its line and column are read off the text before that place once
the whole text is at hand.
-/

namespace DumpDigest.Literal

/-- A place in a text, both numbers counted from one. -/
structure Position where
  line : Nat
  column : Nat
  deriving DecidableEq

namespace Position

/-- The place of the first character. -/
def start : Position := ⟨1, 1⟩

/-- The place behind a character. -/
def advance (place : Position) (c : Char) : Position :=
  if c = '\n' then ⟨place.line + 1, 1⟩ else ⟨place.line, place.column + 1⟩

/-- The place behind a text. -/
def after (text : List Char) : Position :=
  text.foldl advance start

end Position

/-- The greatest number of containers inside one another. -/
def nestingLimit : Nat := 64

/-- What is wrong with a literal. -/
inductive Cause where
  | unexpectedEnd
  | unexpectedCharacter (found : Char)
  | trailingContent (found : Char)
  | tooDeep
  | expectedColon (found : Option Char)
  | expectedSeparator (close found : Char)
  | unterminatedMapping
  | unterminatedSequence
  | unterminatedString
  | unterminatedEscape
  | invalidHexEscape
  | unexpectedKey (found : Char)
  | keyNotStringOrInteger
  | mixedKeys
  | notACount (found : Value) (key : Int64)
  | expectedDigits
  | malformedExponent
  | characterAfterNumber
  | integerTooLarge (text : String)
  | integerTooSmall (text : String)
  | unknownWord (word : String)
  | notAMapping (found : Value.Kind)

/-- A character between quotes. -/
def quotedChar (c : Char) : String :=
  "'" ++ c.toString ++ "'"

/-- The message of a cause. -/
def Cause.message : Cause → String
  | unexpectedEnd => "unexpected end of input"
  | unexpectedCharacter found => "unexpected character " ++ quotedChar found
  | trailingContent found => "unexpected trailing content " ++ quotedChar found
  | tooDeep => "nesting deeper than " ++ nestingLimit.repr ++ " levels"
  | expectedColon none => "expected ':', found end of input"
  | expectedColon (some found) => "expected ':', found " ++ quotedChar found
  | expectedSeparator close found =>
    "expected ',' or " ++ quotedChar close ++ ", found " ++ quotedChar found
  | unterminatedMapping => "unterminated mapping"
  | unterminatedSequence => "unterminated sequence"
  | unterminatedString => "unterminated string"
  | unterminatedEscape => "unterminated escape sequence"
  | invalidHexEscape => "invalid hex escape"
  | unexpectedKey found => "unexpected mapping key starting with " ++ quotedChar found
  | keyNotStringOrInteger => "mapping keys must be strings or integers"
  | mixedKeys => "mapping mixes string and integer keys"
  | notACount found key =>
    "integer-keyed mapping must hold non-negative counts, found " ++ found.display ++
      " at key " ++ integerText key
  | expectedDigits => "expected digits"
  | malformedExponent => "malformed exponent"
  | characterAfterNumber => "unexpected character after number"
  | integerTooLarge text =>
    "invalid integer '" ++ text ++ "': number too large to fit in target type"
  | integerTooSmall text =>
    "invalid integer '" ++ text ++ "': number too small to fit in target type"
  | unknownWord word => "'" ++ word ++ "' is not a literal; only data values are accepted"
  | notAMapping found => "top-level literal must be a mapping, found " ++ found.name

/-- A refusal at the place in front of `rest`. -/
structure Fault where
  cause : Cause
  rest : List Char

/-- A refusal with its place. -/
structure ParseError where
  position : Position
  cause : Cause

/-- The place of a fault in a text: behind all but the fault's rest. -/
def Fault.locate (fault : Fault) (text : List Char) : ParseError :=
  ⟨.after (text.take (text.length - fault.rest.length)), fault.cause⟩

/-- The message of a refusal, its place in front. -/
def ParseError.message (error : ParseError) : String :=
  "line " ++ error.position.line.repr ++ ", column " ++ error.position.column.repr ++ ": " ++
    error.cause.message

end DumpDigest.Literal
