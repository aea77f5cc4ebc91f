import DumpDigest.Literal.Mapping
import DumpDigest.Literal.Number
import DumpDigest.Literal.Quoted

/-! # Parsing literals

A dump is one literal: a mapping, a sequence, a string, a number or one of the words `True`, `False`
and `None`. Names, calls and operators are refused. Containers are read by a parser for what they
contain, which may open one level less, so that the levels left bound the recursion; the items of a
container are read until its bracket closes, and each of them takes something from the text.
-/

namespace DumpDigest.Literal

open Text (Step)

/-- The word that begins with a character, which is one of three constants. -/
def word (first : Char) (behind : List Char) : Except Fault (Step Value (first :: behind)) :=
  let constant (value : Value) : Step Value (first :: behind) :=
    ⟨value, behind.dropWhile isWordCharacter,
      (List.dropWhile_suffix _).trans (List.suffix_cons first behind),
      Nat.lt_succ_of_le (List.dropWhile_suffix _).length_le⟩
  match String.ofList (first :: behind.takeWhile isWordCharacter) with
  | "True" => .ok (constant (.bool true))
  | "False" => .ok (constant (.bool false))
  | "None" => .ok (constant .none)
  | other => .error ⟨.unknownWord other, first :: behind⟩

/-- Items with commas between them up to a closing bracket, and whether a comma stands in front of
the bracket; `comma` tells whether one stands in front of the text. -/
def items {α : Type} (item : Parser α) (close : Char) (unterminated : Cause) (comma : Bool) :
    Parser (List α × Bool) := fun text =>
  match closes : afterTrivia text with
  | c :: rest =>
    if c = close then
      .ok ((Step.one ([], comma) c rest).widen (suffix_of_afterTrivia closes))
    else do
      let first ← item (c :: rest)
      have suffix : first.rest <:+ text := first.suffix.trans (suffix_of_afterTrivia closes)
      match separates : afterTrivia first.rest with
      | [] => throw ⟨unterminated, []⟩
      | ',' :: behind =>
        have : behind.length < text.length :=
          Nat.lt_of_lt_of_le (suffix_of_afterTrivia separates).length_le suffix.length_le
        let others ← items item close unterminated true behind
        let all := others.map fun (values, last) => (first.value :: values, last)
        return (all.behind ',').widen ((suffix_of_afterTrivia separates).trans suffix)
      | d :: behind =>
        if d = close then
          return (Step.one ([first.value], false) d behind).widen
            ((suffix_of_afterTrivia separates).trans suffix)
        else throw ⟨.expectedSeparator close d, d :: behind⟩
  | [] =>
    match item [] with
    | .error fault => .error fault
    | .ok step => absurd step.shorter (Nat.not_lt_zero _)
  termination_by text => text.length

/-- The key in front of a text. -/
def key : Parser Key
  | [] => .error ⟨.unterminatedMapping, []⟩
  | c :: rest =>
    if isQuote c then do
      let text ← strings c rest
      return text.map fun value => .string (String.ofList value)
    else if c = '-' || c = '+' || c.isDigit then do
      let step ← number (c :: rest)
      match step.value with
      | .int value => return step.map fun _ => .int value
      | .float _ => throw ⟨.keyNotStringOrInteger, c :: rest⟩
    else .error ⟨.unexpectedKey c, c :: rest⟩

/-- The entry in front of a text: a key, a colon and a value. -/
def entry (value : Parser Value) : Parser (Key × Value) := fun text => do
  let key ← key text
  match colon : afterTrivia key.rest with
  | ':' :: behind =>
    have suffix : afterTrivia behind <:+ text :=
      (((afterTrivia_suffix behind).trans (List.suffix_cons _ _)).trans
        (suffix_of_afterTrivia colon)).trans key.suffix
    let value ← value (afterTrivia behind)
    return (value.map (key.value, ·)).widen suffix
  | rest => throw ⟨.expectedColon rest.head?, rest⟩

/-- The mapping behind its opening brace. -/
def mapping (value : Parser Value) (body : List Char) :
    Except Fault (Step Value ('\x7b' :: body)) := do
  let entries ← items (entry value) '\x7d' .unterminatedMapping false body
  match mappingValue entries.value.1 with
  | .error cause => throw ⟨cause, '\x7b' :: body⟩
  | .ok value => return (entries.map fun _ => value).behind '\x7b'

/-- The list behind its opening bracket. -/
def list (value : Parser Value) (body : List Char) :
    Except Fault (Step Value ('[' :: body)) := do
  let values ← items value ']' .unterminatedSequence false body
  return (values.map fun (values, _) => .list values).behind '['

/-- The value of a pair of parentheses: one item without a comma behind it stands for itself,
anything else is a list. -/
def tupleValue : List Value × Bool → Value
  | ([value], false) => value
  | (values, _) => .list values

/-- The parenthesized value or tuple behind its opening parenthesis. -/
def tuple (value : Parser Value) (body : List Char) :
    Except Fault (Step Value ('(' :: body)) := do
  let values ← items value ')' .unterminatedSequence false body
  return (values.map tupleValue).behind '('

/-- Whether a character may start a number. -/
def startsNumber (c : Char) : Bool :=
  c = '-' || c = '+' || c = '.' || c.isDigit

/-- A literal that is no container. -/
def scalar : Parser Value
  | [] => .error ⟨.unexpectedEnd, []⟩
  | c :: rest =>
    if isQuote c then do
      let text ← strings c rest
      return text.map fun value => .string (String.ofList value)
    else if startsNumber c then do
      let step ← number (c :: rest)
      return step.map fun
        | .int value => .int value
        | .float value => .float value
    else if Text.isAlphabetic c || c = '_' then word c rest
    else .error ⟨.unexpectedCharacter c, c :: rest⟩

/-- The literal in front of a text, with at most `levels` containers inside one another. -/
def value : (levels : Nat) → Parser Value
  | 0, c :: rest =>
    if c = '\x7b' || c = '[' || c = '(' then .error ⟨.tooDeep, c :: rest⟩ else scalar (c :: rest)
  | levels + 1, '\x7b' :: body => mapping (value levels) body
  | levels + 1, '[' :: body => list (value levels) body
  | levels + 1, '(' :: body => tuple (value levels) body
  | _, text => scalar text

/-- The literal that a text consists of, up to white space and comments. -/
def document (text : List Char) : Except Fault Value := do
  let step ← value nestingLimit (afterTrivia text)
  match afterTrivia step.rest with
  | [] => return step.value
  | c :: rest => throw ⟨.trailingContent c, c :: rest⟩

/-- The value of a text. -/
def parse (text : String) : Except ParseError Value :=
  (document text.toList).mapError (·.locate text.toList)

/-- The record of a text; a refusal of another value points at the start of the text. -/
def parseRecord (text : String) : Except ParseError Record :=
  match parse text with
  | .error error => .error error
  | .ok (.record fields) => .ok fields
  | .ok other => .error ⟨.start, .notAMapping other.kind⟩

end DumpDigest.Literal
