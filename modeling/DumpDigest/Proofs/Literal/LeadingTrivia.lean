import DumpDigest.Proofs.Literal.Places
import DumpDigest.Proofs.Text.Front

/-!
# White space and comments in front of a text

White space and comments may be put in front of any text, also of one that is refused.  The parser
passes over them and then does what it does without them (`document_append`): it finds the same
value, or refuses for the same cause in front of the same rest.  What has moved is the place, and
`Position.behind_append` tells by how much.  `parse_append` is the main result.

A comment in front has to end with its line, or the text behind it would belong to the comment.
-/

namespace DumpDigest.Literal

open Result

/-- White space and comments, each of them with the end of its line. -/
inductive ClosedTrivia : List Char → Prop
  | none : ClosedTrivia []
  | blank {c : Char} {text : List Char} (blank : Text.isBlank c = true) (more : ClosedTrivia text) :
      ClosedTrivia (c :: text)
  | comment {line text : List Char} (oneLine : '\n' ∉ line) (more : ClosedTrivia text) :
      ClosedTrivia ('#' :: (line ++ '\n' :: text))

theorem ClosedTrivia.trivia {front : List Char} (h : ClosedTrivia front) (text : List Char) :
    Trivia (front ++ text) text := by
  induction h with
  | none => exact .none text
  | blank blank _ ih => exact .blank blank ih
  | comment oneLine _ ih =>
    rw [List.cons_append, List.append_assoc, List.cons_append]
    exact .comment oneLine ih

/-- **The parser does behind closed trivia what it does without it.** -/
theorem document_append {front : List Char} (trivia : ClosedTrivia front) (text : List Char) :
    document (front ++ text) = document text := by
  rw [document, (trivia.trivia text).afterTrivia_eq, document]

/-! ### Places behind a text -/

namespace Position

/-- Where a place of a text is once something stands in front of the text: its line moves down by
the line breaks of what stands in front, and its column, if it is in the first line, to the right by
what follows the last of them. -/
def moved (front : List Char) (place : Position) : Position where
  line := place.line + front.count '\n'
  column :=
    if place.line = 1 then place.column + (front.reverse.takeWhile (· ≠ '\n')).length
    else place.column

theorem line_behind_eq_one_iff {text : List Char} : (behind text).line = 1 ↔ '\n' ∉ text := by
  rw [behind, Nat.add_eq_left, List.count_eq_zero]

/-- A text that breaks a line decides alone what follows the last line break. -/
theorem column_behind_of_break {text : List Char} (breaks : '\n' ∈ text) (front : List Char) :
    (behind (front ++ text)).column = (behind text).column := by
  obtain ⟨line, before, split, oneLine⟩ := List.eq_append_cons_of_mem (List.mem_reverse.mpr breaks)
  have split' : (front ++ text).reverse = line ++ '\n' :: (before ++ front.reverse) := by
    rw [List.reverse_append, split, List.append_assoc, List.cons_append]
  rw [behind, behind, (Text.parts_of_split split oneLine).1, (Text.parts_of_split split' oneLine).1]

theorem column_behind_of_line {text : List Char} (oneLine : '\n' ∉ text) (front : List Char) :
    (behind (front ++ text)).column =
      1 + text.length + (front.reverse.takeWhile (· ≠ '\n')).length := by
  have same : ∀ c ∈ text.reverse, decide (c ≠ '\n') = true :=
    Text.differs_of_not_mem fun member => oneLine (List.mem_reverse.mp member)
  rw [behind, List.reverse_append, List.takeWhile_append_of_pos same, List.length_append,
    List.length_reverse, Nat.add_assoc]

/-- **What stands in front of a text moves its places.** -/
theorem behind_append (front text : List Char) :
    behind (front ++ text) = (behind text).moved front := by
  have line : (behind (front ++ text)).line = (behind text).line + front.count '\n' := by
    simp only [behind, List.count_append]
    omega
  have column : (behind (front ++ text)).column = ((behind text).moved front).column := by
    simp only [moved, line_behind_eq_one_iff]
    by_cases oneLine : '\n' ∉ text
    · have alone := column_behind_of_line oneLine []
      rw [if_pos oneLine, column_behind_of_line oneLine front]
      exact congrArg (· + _) alone.symm
    · rw [if_neg oneLine, column_behind_of_break (not_not.mp oneLine)]
  exact congrArg₂ mk line column

end Position

/-- A refusal with its place moved. -/
def ParseError.moved (front : List Char) (error : ParseError) : ParseError :=
  ⟨error.position.moved front, error.cause⟩

/-- **A fault in a text is refused further on with something in front of the text.** -/
theorem Fault.locate_append {fault : Fault} {text : List Char} (inside : fault.rest <:+ text)
    (front : List Char) : fault.locate (front ++ text) = (fault.locate text).moved front := by
  obtain ⟨before, split⟩ := inside
  have behind : (front ++ before) ++ fault.rest = front ++ text := by
    rw [List.append_assoc, split]
  rw [locate_eq behind, locate_eq split, ParseError.moved, Position.behind_append]

/-- **White space and comments in front of a text only move the place of its refusal**: the text
parses to the same value or is refused for the same cause, by the parser and by the one that keeps
its place. -/
theorem parse_append {front : String} (trivia : ClosedTrivia front.toList) (text : String) :
    parse (front ++ text) = (parse text).mapError (·.moved front.toList) ∧
      trackDocument (front ++ text).toList =
        (trackDocument text.toList).mapError (·.moved front.toList) := by
  have same : parse (front ++ text) = (parse text).mapError (·.moved front.toList) := by
    rw [parse, parse, String.toList_append, document_append trivia]
    cases result : document text.toList with
    | ok value => rfl
    | error fault =>
      have inside := refusesIn_document text.toList fault result
      exact congrArg Except.error (fault.locate_append inside front.toList)
  rw [trackDocument_eq_parse, trackDocument_eq_parse]
  exact ⟨same, same⟩

/-- Behind a blank line, a comment and two blanks a question mark in the first line moves by two
lines and two columns, one in the second line by two lines only. -/
theorem question_marks_moved :
    ClosedTrivia "\n# c\n  ".toList ∧
      parse ("\n# c\n  " ++ "'a' ?") = .error ⟨⟨3, 7⟩, .trailingContent '?'⟩ ∧
      parse ("\n# c\n  " ++ "[1,\n?]") = .error ⟨⟨4, 1⟩, .unexpectedCharacter '?'⟩ := by
  have trivia : ClosedTrivia "\n# c\n  ".toList :=
    .blank (by decide) (@ClosedTrivia.comment [' ', 'c'] _ (by decide)
      (.blank (by decide) (.blank (by decide) .none)))
  have first : parse "'a' ?" = .error ⟨⟨1, 5⟩, .trailingContent '?'⟩ :=
    @parse_of_scanDocument_fault 9 _ ⟨.trailingContent '?', ['?']⟩ (by decide) rfl
  have second : parse "[1,\n?]" = .error ⟨⟨2, 1⟩, .unexpectedCharacter '?'⟩ :=
    @parse_of_scanDocument_fault 9 _ ⟨.unexpectedCharacter '?', "?]".toList⟩ (by decide) rfl
  refine ⟨trivia, ?_, ?_⟩
  · rw [(parse_append trivia _).1, first]
    rfl
  · rw [(parse_append trivia _).1, second]
    rfl

end DumpDigest.Literal
