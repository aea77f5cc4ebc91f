import DumpDigest.Text.Step

/-! # Readers, blanks and line ends

A reader takes a piece from the front of a text or refuses it. Lines end in a line feed, which a
carriage return may precede, or with the text; a comment runs from `#` to the end of its line.
-/

namespace DumpDigest.Toml

open Text (Step)

/-- A reader of pieces of one type. -/
abbrev Reader (α : Type) := (text : List Char) → Option (Step α text)

/-- Whether a character is a blank within a line. -/
def isSpace (c : Char) : Bool :=
  c = ' ' || c = '\t'

/-- Whether a character may stand in a string or a comment as it is: all but the control characters,
among which the tabulator does not count. -/
def isPlain (c : Char) : Bool :=
  c = '\t' || (0x20 ≤ c.toNat && c.toNat ≠ 0x7f)

/-- What remains behind the blanks in front of a text. -/
def afterSpaces (text : List Char) : List Char :=
  text.dropWhile isSpace

/-- What remains behind the blanks, line breaks and comments in front of a text; `inComment` tells
whether a comment is open. -/
def skipLines (inComment : Bool) : List Char → List Char
  | [] => []
  | '\n' :: rest => skipLines false rest
  | '\r' :: '\n' :: rest => skipLines false rest
  | c :: rest =>
    if inComment then if isPlain c then skipLines true rest else c :: rest
    else if isSpace c then skipLines false rest
    else if c = '#' then skipLines true rest
    else c :: rest

/-- What remains behind the blanks in front of a text, and if `spread` behind its line breaks and
comments. -/
def afterBlanks (spread : Bool) (text : List Char) : List Char :=
  if spread then skipLines false text else afterSpaces text

/-- What remains behind a line break. -/
def afterLineBreak? : List Char → Option (List Char)
  | '\n' :: rest => some rest
  | '\r' :: '\n' :: rest => some rest
  | _ => none

/-- What remains behind a comment, if there is one. -/
def afterComment : List Char → List Char
  | '#' :: rest => rest.dropWhile isPlain
  | text => text

/-- What remains behind a line on which nothing but blanks and a comment follow. -/
def afterLine? (text : List Char) : Option (List Char) :=
  match afterComment (afterSpaces text) with
  | [] => some []
  | rest => afterLineBreak? rest

/-! ### Nothing but a part of the text remains -/

theorem afterSpaces_suffix (text : List Char) : afterSpaces text <:+ text :=
  List.dropWhile_suffix _

theorem skipLines_suffix (inComment : Bool) (text : List Char) :
    skipLines inComment text <:+ text := by
  fun_induction skipLines inComment text with
  | case1 => exact List.suffix_rfl
  | case2 _ rest ih => exact ih.trans (List.suffix_cons _ rest)
  | case3 _ rest ih => exact ih.trans ⟨['\r', '\n'], rfl⟩
  | case4 c rest _ _ _ ih => exact ih.trans (List.suffix_cons c rest)
  | case5 => exact List.suffix_rfl
  | case6 _ c rest _ _ _ _ ih => exact ih.trans (List.suffix_cons c rest)
  | case7 _ rest _ _ _ _ ih => exact ih.trans (List.suffix_cons _ rest)
  | case8 => exact List.suffix_rfl

theorem afterBlanks_suffix (spread : Bool) (text : List Char) :
    afterBlanks spread text <:+ text := by
  unfold afterBlanks
  split
  · exact skipLines_suffix false text
  · exact afterSpaces_suffix text

theorem afterLineBreak?_suffix {text rest : List Char} (h : afterLineBreak? text = some rest) :
    rest <:+ text ∧ rest.length < text.length := by
  unfold afterLineBreak? at h
  split at h
  · obtain rfl := Option.some.inj h
    exact ⟨List.suffix_cons _ _, Nat.lt_succ_self _⟩
  · obtain rfl := Option.some.inj h
    exact ⟨⟨['\r', '\n'], rfl⟩, by simp only [List.length_cons]; omega⟩
  · cases h

theorem afterComment_suffix (text : List Char) : afterComment text <:+ text := by
  unfold afterComment
  split
  · exact (List.dropWhile_suffix _).trans (List.suffix_cons _ _)
  · exact List.suffix_rfl

theorem afterLine?_suffix {text rest : List Char} (h : afterLine? text = some rest) :
    rest <:+ text := by
  have front := (afterComment_suffix (afterSpaces text)).trans (afterSpaces_suffix text)
  unfold afterLine? at h
  split at h
  · obtain rfl := Option.some.inj h
    exact List.nil_suffix
  · exact (afterLineBreak?_suffix h).1.trans front

/-- A line takes something from every text but the empty one. -/
theorem afterLine?_shorter {text rest : List Char} (h : afterLine? text = some rest)
    (nonempty : text ≠ []) : rest.length < text.length := by
  have front := (afterComment_suffix (afterSpaces text)).trans (afterSpaces_suffix text)
  unfold afterLine? at h
  split at h
  · obtain rfl := Option.some.inj h
    exact List.length_pos_iff.2 nonempty
  · exact Nat.lt_of_lt_of_le (afterLineBreak?_suffix h).2 front.length_le

end DumpDigest.Toml
