import DumpDigest.Text.Digit
import DumpDigest.Toml.Reader

/-! # Strings

Strings stand in double quotes, with escapes, or in single quotes, where a backslash stands for
itself. In three quotes they may run over several lines; a line break right behind the opening
quotes does not count, all others are line feeds, and up to two more quotes in front of the closing
ones belong to the string.
-/

namespace DumpDigest.Toml

open Text (Step)

/-- How a string is quoted. -/
structure Quoting where
  verbatim : Bool
  long : Bool
  deriving DecidableEq

/-- The quote of a quoting. -/
def Quoting.mark (quoting : Quoting) : Char :=
  if quoting.verbatim then '\'' else '"'

/-- The character that hexadecimal digits name. -/
def codePoint? (digits : List Char) : Option Char :=
  let code := Text.digitsValue 16 digits
  if digits.all (Text.isDigitOf 16) && code.isValidChar then some (Char.ofNat code) else none

/-- What a backslash and a letter other than `u` and `U` stand for. -/
def simpleEscape? : Char → Option Char
  | 'b' => some '\x08'
  | 'f' => some '\x0c'
  | 'n' => some '\n'
  | 'r' => some '\r'
  | 't' => some '\t'
  | '"' => some '"'
  | '\\' => some '\\'
  | _ => none

/-- The escape behind a backslash. -/
def escape : Reader Char
  | 'u' :: a :: b :: c :: d :: rest => do
    let named ← codePoint? [a, b, c, d]
    return .past named 'u' [a, b, c, d] rest
  | 'U' :: a :: b :: c :: d :: e :: f :: g :: h :: rest => do
    let named ← codePoint? [a, b, c, d, e, f, g, h]
    return .past named 'U' [a, b, c, d, e, f, g, h] rest
  | c :: rest => do
    let named ← simpleEscape? c
    return .one named c rest
  | [] => none

/-- What remains behind blanks and line breaks. -/
def afterSpacesAndBreaks : List Char → List Char
  | '\r' :: '\n' :: rest => afterSpacesAndBreaks rest
  | c :: rest => if isSpace c || c = '\n' then afterSpacesAndBreaks rest else c :: rest
  | [] => []

theorem afterSpacesAndBreaks_suffix (text : List Char) : afterSpacesAndBreaks text <:+ text := by
  fun_induction afterSpacesAndBreaks text with
  | case1 rest ih => exact ih.trans ⟨['\r', '\n'], rfl⟩
  | case2 c rest _ _ ih => exact ih.trans (List.suffix_cons c rest)
  | case3 => exact List.suffix_rfl
  | case4 => exact List.suffix_rfl

/-- The end of a line that a backslash joins with what follows, behind the backslash. -/
def joinedLine : Reader Unit := fun text =>
  match h : afterLineBreak? (afterSpaces text) with
  | none => none
  | some rest =>
    have shortened := afterLineBreak?_suffix h
    have spaces := afterSpaces_suffix text
    some ((Step.mk () rest (shortened.1.trans spaces)
      (Nat.lt_of_lt_of_le shortened.2 spaces.length_le)).skip (afterSpacesAndBreaks rest)
        (afterSpacesAndBreaks_suffix rest))

/-- The closing quotes of a string, with the quotes in front of them that belong to it. -/
def closing (quoting : Quoting) : Reader (List Char)
  | [] => none
  | c :: rest =>
    if c ≠ quoting.mark then none
    else if !quoting.long then some (.one [] c rest)
    else
      match rest with
      | d :: e :: behind =>
        if d = c && e = c then
          let own := (behind.takeWhile (· = c)).take 2
          some ((Step.past own c [d, e] behind).skip (behind.drop own.length)
            (List.drop_suffix _ _))
        else none
      | _ => none

/-- The content of a string behind its opening quotes, through its closing ones. -/
def content (quoting : Quoting) : Reader (List Char) := fun text =>
  match closing quoting text with
  | some step => some step
  | none =>
    match text with
    | [] => none
    | c :: rest =>
      if c = '\\' && !quoting.verbatim then
        match if quoting.long then joinedLine rest else none with
        | some joined => do
          have : joined.rest.length < rest.length := joined.shorter
          let others ← content quoting joined.rest
          return (others.widen joined.suffix).behind c
        | none => do
          let escaped ← escape rest
          have : escaped.rest.length < rest.length := escaped.shorter
          let others ← content quoting escaped.rest
          return ((others.map (escaped.value :: ·)).widen escaped.suffix).behind c
      else if isPlain c then do
        let others ← content quoting rest
        return (others.map (c :: ·)).behind c
      else if quoting.long then
        match h : afterLineBreak? (c :: rest) with
        | some behind => do
          have shortened := afterLineBreak?_suffix h
          have : behind.length < (c :: rest).length := shortened.2
          let others ← content quoting behind
          return (others.map ('\n' :: ·)).widen shortened.1
        | none => none
      else none
  termination_by text => text.length
  decreasing_by all_goals (simp only [List.length_cons] at *; omega)

/-- The content of a string in three quotes, a line break at its start left out. -/
def longContent (quoting : Quoting) : Reader (List Char) := fun text =>
  match h : afterLineBreak? text with
  | some rest => do
    let step ← content quoting rest
    return step.widen (afterLineBreak?_suffix h).1
  | none => content quoting text

/-- The string in front of a text, on one line. -/
def shortString : Reader String
  | [] => none
  | c :: rest =>
    if c = '"' || c = '\'' then do
      let step ← content ⟨c = '\'', false⟩ rest
      return (step.map String.ofList).behind c
    else none

/-- The string in front of a text. -/
def string : Reader String
  | c :: d :: e :: rest =>
    if (c = '"' || c = '\'') && d = c && e = c then do
      let step ← longContent ⟨c = '\'', true⟩ rest
      return (step.map String.ofList).widen ⟨[c, d, e], rfl⟩
    else shortString (c :: d :: e :: rest)
  | text => shortString text

end DumpDigest.Toml
