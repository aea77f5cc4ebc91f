import DumpDigest.Literal.Parser
import DumpDigest.Text.Digit

/-! # Quoted strings

A string stands between two equal quotes on one line. A backslash escapes the character behind it,
where the escape is not a known one it stands for itself and that character, and strings with
nothing but trivia between them are one string.
-/

namespace DumpDigest.Literal

open Text (Step)

/-- Whether a character opens a string. -/
def isQuote (c : Char) : Bool :=
  c = '"' || c = '\''

/-- What a backslash and a character other than `x` stand for. -/
def simpleEscape (c : Char) : List Char :=
  match c with
  | '\\' => ['\\']
  | '\'' => ['\'']
  | '"' => ['"']
  | 'n' => ['\n']
  | 't' => ['\t']
  | 'r' => ['\r']
  | 'a' => ['\x07']
  | 'b' => ['\x08']
  | 'f' => ['\x0c']
  | 'v' => ['\x0b']
  | '0' => ['\x00']
  | other => ['\\', other]

/-- The escape behind a backslash. -/
def escape : Parser (List Char)
  | [] => .error ⟨.unterminatedEscape, []⟩
  | 'x' :: high :: low :: rest =>
    match Text.hexDigit? high, Text.hexDigit? low with
    | some h, some l =>
      .ok (.past [Char.ofNat (16 * h + l)] 'x' [high, low] rest)
    | _, _ => .error ⟨.invalidHexEscape, 'x' :: high :: low :: rest⟩
  | 'x' :: rest => .error ⟨.invalidHexEscape, 'x' :: rest⟩
  | c :: rest => .ok (.one (simpleEscape c) c rest)

/-- The characters of a string and its closing quote, behind the quote in front of which `start`
remains. -/
def stringBody (start : List Char) (quote : Char) : Parser (List Char)
  | [] => .error ⟨.unterminatedString, start⟩
  | c :: rest =>
    if c = quote then .ok (.one [] c rest)
    else if c = '\n' then .error ⟨.unterminatedString, start⟩
    else if c = '\\' then do
      let escaped ← escape rest
      have : escaped.rest.length < rest.length := escaped.shorter
      let body ← stringBody start quote escaped.rest
      return ((body.map (escaped.value ++ ·)).widen escaped.suffix).behind c
    else do
      let body ← stringBody start quote rest
      return (body.map (c :: ·)).behind c
  termination_by text => text.length

/-- The string that begins with a quote, joined with the strings that follow it. -/
def strings (quote : Char) (body : List Char) :
    Except Fault (Step (List Char) (quote :: body)) := do
  let first ← stringBody (quote :: body) quote body
  let wide := first.behind quote
  match follows : afterTrivia first.rest with
  | [] => return wide
  | next :: rest =>
    if isQuote next then
      have suffix : next :: rest <:+ first.rest := suffix_of_afterTrivia follows
      have : rest.length < body.length := Nat.lt_trans suffix.length_le first.shorter
      let others ← strings next rest
      return (others.map (first.value ++ ·)).widen (suffix.trans wide.suffix)
    else
      return wide
  termination_by body.length

end DumpDigest.Literal
