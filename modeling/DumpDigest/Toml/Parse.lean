import DumpDigest.Toml.Quoted
import DumpDigest.Toml.Scalar
import DumpDigest.Toml.Table

/-! # Reading configuration files

A file is read line by line: entries `key = value`, headers, and lines with nothing but a comment.
Arrays may be spread over lines and end in a comma, tables between braces may not. Containers are
read by a reader for what they contain, which may open one level less.
-/

namespace DumpDigest.Toml

open Text (Step)

/-! ### Keys -/

/-- Whether a character may stand in a key without quotes. -/
def isBareCharacter (c : Char) : Bool :=
  c.isAlphanum || c = '_' || c = '-'

/-- One name of a key, in quotes or bare. -/
def keyName : Reader String
  | [] => none
  | c :: rest =>
    if c = '"' || c = '\'' then shortString (c :: rest)
    else if isBareCharacter c then
      some ⟨String.ofList (c :: rest.takeWhile isBareCharacter), rest.dropWhile isBareCharacter,
        (List.dropWhile_suffix _).trans (List.suffix_cons c rest),
        Nat.lt_succ_of_le (List.dropWhile_suffix _).length_le⟩
    else none

/-- The names of a key, through the blanks behind it. -/
def keyNames : Reader (List String) := fun text => do
  let name ← keyName text
  let padded := name.skip (afterSpaces name.rest) (afterSpaces_suffix name.rest)
  match follows : padded.rest with
  | '.' :: behind =>
    have suffix : afterSpaces behind <:+ padded.rest :=
      follows ▸ (afterSpaces_suffix behind).trans (List.suffix_cons '.' behind)
    have : (afterSpaces behind).length < text.length :=
      Nat.lt_of_le_of_lt suffix.length_le padded.shorter
    let names ← keyNames (afterSpaces behind)
    return (names.map (name.value :: ·)).widen (suffix.trans padded.suffix)
  | _ => return padded.map ([·])
  termination_by text => text.length

/-- The key of some names, if they are not too many. -/
def Key.ofNames? (names : List String) : Option Key :=
  if names.length ≤ nestingLimit then
    names.getLast?.map fun name => ⟨names.dropLast, name⟩
  else none

/-- The key in front of a text, through the blanks behind it. -/
def key : Reader Key := fun text => do
  let names ← keyNames text
  let key ← Key.ofNames? names.value
  return names.map fun _ => key

/-! ### Values -/

/-- An entry, with its value read by a reader for values. -/
def entry (value : Reader Value) : Reader (Key × Value) := fun text => do
  let key ← key text
  match follows : key.rest with
  | '=' :: behind =>
    have suffix : afterSpaces behind <:+ key.rest :=
      follows ▸ (afterSpaces_suffix behind).trans (List.suffix_cons '=' behind)
    let value ← value (afterSpaces behind)
    return (value.map (key.value, ·)).widen (suffix.trans key.suffix)
  | _ => none

/-- Items with commas between them up to a closing bracket, and through it. If they are `spread`,
line breaks and comments may stand between them and a comma in front of the bracket; `closes` tells
whether the bracket may come first. -/
def items {α : Type} (item : Reader α) (close : Char) (spread closes : Bool) :
    Reader (List α) := fun text =>
  match starts : afterBlanks spread text with
  | [] => none
  | c :: rest =>
    have front : c :: rest <:+ text := starts ▸ afterBlanks_suffix spread text
    if c = close && closes then
      some ((Step.one [] c rest).widen front)
    else do
      let first ← item (c :: rest)
      have behindFirst := first.suffix.trans front
      match follows : afterBlanks spread first.rest with
      | [] => none
      | d :: behind =>
        have suffix : d :: behind <:+ text :=
          (follows ▸ afterBlanks_suffix spread first.rest).trans behindFirst
        if d = ',' then
          have : behind.length < text.length :=
            Nat.lt_of_lt_of_le (Nat.lt_succ_self _) suffix.length_le
          let others ← items item close spread spread behind
          return ((others.map (first.value :: ·)).behind d).widen suffix
        else if d = close then
          return (Step.one [first.value] d behind).widen suffix
        else none
  termination_by text => text.length

/-- The array behind its opening bracket. -/
def array (value : Reader Value) (body : List Char) : Option (Step Value ('[' :: body)) := do
  let values ← items value ']' true true body
  return (values.map Value.array).behind '['

/-- The table behind its opening brace. -/
def braces (value : Reader Value) (body : List Char) :
    Option (Step Value ('\x7b' :: body)) := do
  let entries ← items (entry value) '\x7d' false true body
  let table ← inlineTable entries.value
  return (entries.map fun _ => table).behind '\x7b'

/-- The value in front of a text, with at most `levels` containers inside one another. -/
def value : (levels : Nat) → Reader Value
  | 0, c :: rest => if c = '[' || c = '\x7b' then none else plain (c :: rest)
  | levels + 1, '[' :: body => array (value levels) body
  | levels + 1, '\x7b' :: body => braces (value levels) body
  | _, text => plain text
where
  /-- A value that contains no others. -/
  plain : Reader Value
    | [] => none
    | c :: rest =>
      if c = '"' || c = '\'' then (·.map Value.string) <$> string (c :: rest)
      else scalar (c :: rest)

/-! ### Lines -/

/-- The key between a header's brackets, behind the opening ones and through the closing ones. -/
def header (closing : List Char) : Reader Key := fun text => do
  let start := afterSpaces text
  let key ← key start
  if closing.isPrefixOf key.rest then
    return (key.skip (key.rest.drop closing.length) (List.drop_suffix _ _)).widen
      (afterSpaces_suffix text)
  else none

/-- The statement in front of a text. -/
def statement : Reader Statement
  | '[' :: '[' :: rest => do
    let key ← header [']', ']'] rest
    return (key.map Statement.element).widen ⟨['[', '['], rfl⟩
  | '[' :: rest => do
    let key ← header [']'] rest
    return (key.map Statement.table).behind '['
  | text => do
    let entry ← entry (value nestingLimit) text
    return entry.map fun (key, value) => .entry key value

/-- The statements of the lines of a text. -/
def statements (text : List Char) : Option (List Statement) :=
  match starts : afterSpaces text with
  | [] => some []
  | c :: rest =>
    have front : (c :: rest).length ≤ text.length :=
      (starts ▸ afterSpaces_suffix text : c :: rest <:+ text).length_le
    match ends : afterLine? (c :: rest) with
    | some behind =>
      have : behind.length < text.length :=
        Nat.lt_of_lt_of_le (afterLine?_shorter ends (List.cons_ne_nil c rest)) front
      statements behind
    | none => do
      let first ← statement (c :: rest)
      match ends : afterLine? first.rest with
      | some behind =>
        have : behind.length < text.length :=
          Nat.lt_of_le_of_lt (afterLine?_suffix ends).length_le
            (Nat.lt_of_lt_of_le first.shorter front)
        let others ← statements behind
        return first.value :: others
      | none => none
  termination_by text.length

/-- A text without the byte order mark that may stand at its start. -/
def afterMark : List Char → List Char
  | '\ufeff' :: rest => rest
  | text => text

/-- The table of a configuration file, nothing if the file is malformed. -/
def parse (text : String) : Option Table := do
  let lines ← statements (afterMark text.toList)
  tableOf lines

end DumpDigest.Toml
