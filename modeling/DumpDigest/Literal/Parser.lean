import DumpDigest.Literal.Fault
import DumpDigest.Text.Blank
import DumpDigest.Text.Step

/-! # Parsers and trivia

A parser reads a piece from the front of a text or refuses it with a fault. Between the pieces of a
literal stands trivia: white space and comments.
-/

namespace DumpDigest.Literal

open Text (Step)

/-- A reader of pieces of one type. -/
abbrev Parser (α : Type) := (text : List Char) → Except Fault (Step α text)

/-- What remains after white space and comments, a comment running from `#` to the end of its line;
`inComment` tells whether one is open. -/
def skipTrivia (inComment : Bool) : List Char → List Char
  | [] => []
  | c :: rest =>
    if inComment then skipTrivia (c ≠ '\n') rest
    else if Text.isBlank c then skipTrivia false rest
    else if c = '#' then skipTrivia true rest
    else c :: rest

/-- What remains after the white space and the comments in front of a text. -/
def afterTrivia (text : List Char) : List Char :=
  skipTrivia false text

theorem skipTrivia_suffix (inComment : Bool) (text : List Char) :
    skipTrivia inComment text <:+ text := by
  induction text generalizing inComment with
  | nil => simp [skipTrivia]
  | cons c rest ih =>
    unfold skipTrivia
    split
    · exact (ih _).trans (List.suffix_cons c rest)
    · split
      · exact (ih _).trans (List.suffix_cons c rest)
      · split
        · exact (ih _).trans (List.suffix_cons c rest)
        · exact List.suffix_rfl

theorem afterTrivia_suffix (text : List Char) : afterTrivia text <:+ text :=
  skipTrivia_suffix false text

/-- What comes behind the first character of what follows trivia is a suffix of the text. -/
theorem suffix_of_afterTrivia {text rest : List Char} {c : Char}
    (h : afterTrivia text = c :: rest) : c :: rest <:+ text :=
  h ▸ afterTrivia_suffix text

end DumpDigest.Literal
