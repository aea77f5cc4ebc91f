import DumpDigest.Proofs.Literal.Places

/-!
# Literals nested too deeply

A text may be a literal but for the number of brackets inside one another.  `openings` finds the
opening brackets of a text and their levels by looking at one character after the other, without the
grammar: it only has to know whether the character is in a comment or in a string.  The main result,
`parse_nested`, says that such a text is read if all levels are at most 64, and otherwise refused at
the first bracket of level 65.

The parser may open so many levels less as brackets are open already, so its allowance and the open
brackets add up to a limit.  `Bounds` says what this makes of a reader in front of a piece of a
grammar: the piece is read and no bracket in it is above the limit (`Shallow`), or the reader
refuses at the first bracket that is (`Deep`).  The induction is on the parser's allowance, and the
piece may have any number of levels.  A piece that is read leaves as many brackets open as it found,
which is what carries the count over siblings.
-/

namespace DumpDigest.Literal

open Text (Step)
open Result

/-! ### Opening brackets -/

/-- The brackets that close containers. -/
def closingBrackets : List Char := ['\x7d', ']', ')']

/-- What a character stands in: a comment, a string, a string right behind a backslash, or none of
these. -/
inductive Region where
  | plain
  | comment
  | string (quote : Char)
  | escape (quote : Char)

/-- An opening bracket: how many brackets are open behind it, and the text from it on. -/
structure Opening where
  level : Nat
  rest : List Char
  deriving DecidableEq

/-- The opening brackets of a text in order, where the text begins in a region with some brackets
open.  Brackets in comments and in strings do not count. -/
def openings : Region → (depth : Nat) → List Char → List Opening
  | _, _, [] => []
  | .plain, depth, c :: rest =>
    if c ∈ openingBrackets then ⟨depth + 1, c :: rest⟩ :: openings .plain (depth + 1) rest
    else if c ∈ closingBrackets then openings .plain (depth - 1) rest
    else if c = '#' then openings .comment depth rest
    else if isQuote c then openings (.string c) depth rest
    else openings .plain depth rest
  | .comment, depth, c :: rest => openings (if c = '\n' then .plain else .comment) depth rest
  | .string quote, depth, c :: rest =>
    if c = quote then openings .plain depth rest
    else if c = '\\' then openings (.escape quote) depth rest
    else openings (.string quote) depth rest
  | .escape quote, depth, _ :: rest => openings (.string quote) depth rest

/-- The characters that brackets are told by. -/
def marks : List Char := openingBrackets ++ closingBrackets ++ ['#', '"', '\'']

/-- No character of a kind is a mark. -/
def Unmarked (kind : Char → Bool) : Prop :=
  ∀ d ∈ marks, kind d = false

instance (kind : Char → Bool) : Decidable (Unmarked kind) :=
  decidable_of_iff (marks.all (kind · = false)) List.all_iff_forall_prop

section openings

variable {c : Char} {depth : Nat} {text rest : List Char}

theorem openings_opening (bracket : c ∈ openingBrackets) :
    openings .plain depth (c :: rest) =
      ⟨depth + 1, c :: rest⟩ :: openings .plain (depth + 1) rest := by
  rw [openings, if_pos bracket]

theorem openings_closing (bracket : c ∈ closingBrackets) :
    openings .plain (depth + 1) (c :: rest) = openings .plain depth rest := by
  have closes : ∀ d ∈ closingBrackets, d ∉ openingBrackets :=
    List.all_iff_forall_prop.mp (by decide)
  rw [openings, if_neg (closes c bracket), if_pos bracket, Nat.add_sub_cancel]

theorem openings_unmarked (unmarked : c ∉ marks) :
    openings .plain depth (c :: rest) = openings .plain depth rest := by
  simp only [marks, List.mem_append, List.mem_cons, List.not_mem_nil, or_false, not_or] at unmarked
  obtain ⟨⟨noOpening, noClosing⟩, noHash, noQuote, noApostrophe⟩ := unmarked
  rw [openings, if_neg noOpening, if_neg noClosing, if_neg noHash,
    if_neg (by simp [isQuote, noQuote, noApostrophe])]

theorem openings_append {piece : List Char} (unmarked : ∀ c ∈ piece, c ∉ marks) :
    openings .plain depth (piece ++ rest) = openings .plain depth rest := by
  induction piece with
  | nil => rfl
  | cons c piece ih =>
    rw [List.forall_mem_cons] at unmarked
    rw [List.cons_append, openings_unmarked unmarked.1, ih unmarked.2]

theorem openings_line {line : List Char} (oneLine : '\n' ∉ line) :
    openings .comment depth (line ++ '\n' :: text) = openings .plain depth text := by
  induction line with
  | nil => rfl
  | cons c line ih =>
    rw [List.mem_cons, not_or] at oneLine
    rw [List.cons_append, openings, if_neg (Ne.symm oneLine.1), ih oneLine.2]

theorem openings_lastLine {line : List Char} (oneLine : '\n' ∉ line) :
    openings .comment depth line = [] := by
  induction line with
  | nil => rfl
  | cons c line ih =>
    rw [List.mem_cons, not_or] at oneLine
    rw [openings, if_neg (Ne.symm oneLine.1), ih oneLine.2]

theorem openings_hash : openings .plain depth ('#' :: text) = openings .comment depth text := by
  rw [openings, if_neg (by decide), if_neg (by decide), if_pos rfl]

theorem Unmarked.not_mem {kind : Char → Bool} (unmarked : Unmarked kind) (h : kind c = true) :
    c ∉ marks := by
  intro mark
  cases h.symm.trans (unmarked c mark)

/-- **No bracket is opened in trivia.** -/
theorem Trivia.openings_eq (h : Trivia text rest) :
    openings .plain depth text = openings .plain depth rest := by
  have blanks : Unmarked Text.isBlank := by decide
  induction h with
  | none => rfl
  | blank blank _ ih => rw [openings_unmarked (blanks.not_mem blank), ih]
  | comment oneLine _ ih => rw [openings_hash, openings_line oneLine, ih]
  | lastComment oneLine => rw [openings_hash, openings_lastLine oneLine, openings]

end openings

/-! ### Literals without containers -/

section scalars

variable {depth : Nat} {text rest : List Char}

theorem IsSign.not_mem_marks {c : Char} (h : IsSign c) : c ∉ marks := by
  rcases h with rfl | rfl <;> decide

theorem AreDigits.not_mem_marks {digits : List Char} (h : AreDigits digits) :
    ∀ c ∈ digits, c ∉ marks := by
  have unmarked : Unmarked Char.isDigit := by decide
  exact fun c member => unmarked.not_mem (h c member)

theorem numeralText_not_mem_marks {numeral : Decimal.Numeral} {mark : Char}
    (proper : Proper numeral) (case : mark = 'e' ∨ mark = 'E') :
    ∀ c ∈ numeralText mark numeral, c ∉ marks := by
  have signs : ∀ c ∈ numeral.sign.toList, c ∉ marks := fun c member =>
    (proper.sign c (Option.mem_toList.mp member)).not_mem_marks
  have fraction : ∀ c ∈ fractionText numeral.fraction, c ∉ marks := by
    cases is : numeral.fraction with
    | none => simp [fractionText]
    | some digits =>
      exact List.forall_mem_cons.mpr ⟨by decide, (proper.fraction digits is).not_mem_marks⟩
  have exponent : ∀ c ∈ exponentText mark numeral.exponent, c ∉ marks := by
    cases is : numeral.exponent with
    | none => simp [exponentText]
    | some parts =>
      have letter : mark ∉ marks := by rcases case with rfl | rfl <;> decide
      refine List.forall_mem_cons.mpr ⟨letter, List.forall_mem_append.mpr ⟨fun c member => ?_, ?_⟩⟩
      · exact (proper.exponentSign parts is c (Option.mem_toList.mp member)).not_mem_marks
      · exact (proper.exponentDigits parts is).1.not_mem_marks
  simp only [numeralText, List.forall_mem_append]
  exact ⟨⟨⟨signs, proper.whole.not_mem_marks⟩, fraction⟩, exponent⟩

theorem NumberText.openings_eq {number : Number} (h : NumberText text number rest) :
    openings .plain depth text = openings .plain depth rest := by
  cases h with
  | int signs digit _ mark =>
    refine openings_append ?_
    simp only [List.forall_mem_append]
    refine ⟨⟨fun c member => ?_, digit.not_mem_marks⟩, ?_⟩
    · exact (signs c (Option.mem_toList.mp member)).not_mem_marks
    · rcases mark with rfl | rfl | rfl <;> simp [marks, openingBrackets, closingBrackets]
  | float proper _ case => exact openings_append (numeralText_not_mem_marks proper case)

theorem WordText.openings_eq {value : Value} (h : WordText text value rest) :
    openings .plain depth text = openings .plain depth rest := by
  cases h with
  | true =>
    have unmarked : ∀ c ∈ ['T', 'r', 'u', 'e'], c ∉ marks :=
      List.all_iff_forall_prop.mp (by decide)
    exact openings_append unmarked
  | false =>
    have unmarked : ∀ c ∈ ['F', 'a', 'l', 's', 'e'], c ∉ marks :=
      List.all_iff_forall_prop.mp (by decide)
    exact openings_append unmarked
  | none =>
    have unmarked : ∀ c ∈ ['N', 'o', 'n', 'e'], c ∉ marks :=
      List.all_iff_forall_prop.mp (by decide)
    exact openings_append unmarked

/-- A character of a string that neither ends it nor escapes another one is passed over. -/
theorem openings_string_cons {c quote : Char} (noQuote : c ≠ quote) (noBackslash : c ≠ '\\') :
    openings (.string quote) depth (c :: rest) = openings (.string quote) depth rest := by
  rw [openings, if_neg noQuote, if_neg noBackslash]

theorem openings_string_escape {c quote : Char} (opens : isQuote quote = true) :
    openings (.string quote) depth ('\\' :: c :: rest) = openings (.string quote) depth rest := by
  rw [openings, if_neg (isQuote_ne opens).1, if_pos rfl, openings]

theorem openings_string_hexDigit {c quote : Char} {value : Nat} (opens : isQuote quote = true)
    (digit : Text.hexDigit? c = some value) :
    openings (.string quote) depth (c :: rest) = openings (.string quote) depth rest := by
  have none : ∀ d ∈ ['"', '\'', '\\'], Text.hexDigit? d = none :=
    List.all_iff_forall_prop.mp (by decide)
  have quotes : quote = '"' ∨ quote = '\'' := by simpa [isQuote] using opens
  refine openings_string_cons ?_ ?_
  · rintro rfl
    cases digit.symm.trans (none c (by simpa using quotes.imp_right .inl))
  · rintro rfl
    cases digit.symm.trans (none '\\' (by simp))

theorem QuotedText.openings_eq {quote : Char} {meant : List Char} (opens : isQuote quote = true)
    (h : QuotedText quote text meant rest) :
    openings (.string quote) depth text = openings .plain depth rest := by
  induction h with
  | close rest => rw [openings, if_pos rfl]
  | part part _ ih =>
    rw [← ih]
    cases part with
    | plain noQuote noBackslash => exact openings_string_cons noQuote noBackslash
    | known => exact openings_string_escape opens
    | hexadecimal first second =>
      exact (openings_string_escape opens).trans
        ((openings_string_hexDigit opens first).trans (openings_string_hexDigit opens second))
    | unknown => exact openings_string_escape opens

theorem openings_quote {quote : Char} (opens : isQuote quote = true) :
    openings .plain depth (quote :: text) = openings (.string quote) depth text := by
  have told : ∀ d ∈ ['"', '\''], d ∉ openingBrackets ∧ d ∉ closingBrackets ∧ d ≠ '#' :=
    List.all_iff_forall_prop.mp (by decide)
  obtain ⟨noOpening, noClosing, noHash⟩ := told quote (by simpa [isQuote] using opens)
  rw [openings, if_neg noOpening, if_neg noClosing, if_neg noHash, if_pos opens]

theorem StringsText.openings_eq {meant : List Char} (h : StringsText text meant rest) :
    openings .plain depth text = openings .plain depth rest := by
  induction h with
  | one opens string => rw [openings_quote opens, string.openings_eq opens]
  | more opens string apart _ ih =>
    rw [openings_quote opens, string.openings_eq opens, apart.openings_eq, ih]

theorem KeyText.openings_eq {key : Key} (h : KeyText text key rest) :
    openings .plain depth text = openings .plain depth rest := by
  cases h with
  | string strings => exact strings.openings_eq
  | int integer => exact integer.openings_eq

theorem Scalar.openings_eq {value : Value} (h : Scalar text value rest) :
    openings .plain depth text = openings .plain depth rest := by
  cases h with
  | word word => exact word.openings_eq
  | int integer => exact integer.openings_eq
  | float decimal => exact decimal.openings_eq
  | string strings => exact strings.openings_eq

end scalars

/-! ### Brackets up to a limit -/

/-- Between two places of a text, with so many brackets open at the one and at the other, no opening
bracket is above the limit. -/
def Shallow (limit depth : Nat) (text : List Char) (depth' : Nat) (rest : List Char) : Prop :=
  ∃ between, openings .plain depth text = between ++ openings .plain depth' rest ∧
    ∀ opening ∈ between, opening.level ≤ limit

/-- The first opening bracket above the limit is one level above it, in front of a rest. -/
def Deep (limit depth : Nat) (text rest : List Char) : Prop :=
  ∃ between others, openings .plain depth text = between ++ ⟨limit + 1, rest⟩ :: others ∧
    ∀ opening ∈ between, opening.level ≤ limit

section limits

variable {limit depth depth' depth'' : Nat} {text behind rest : List Char}

theorem Shallow.of_eq (same : openings .plain depth text = openings .plain depth' rest) :
    Shallow limit depth text depth' rest :=
  ⟨[], same, by simp⟩

theorem Shallow.trans (here : Shallow limit depth text depth' behind)
    (there : Shallow limit depth' behind depth'' rest) : Shallow limit depth text depth'' rest := by
  obtain ⟨between, is, below⟩ := here
  obtain ⟨between', is', below'⟩ := there
  refine ⟨between ++ between', ?_, List.forall_mem_append.mpr ⟨below, below'⟩⟩
  rw [is, is', List.append_assoc]

theorem Shallow.deep (here : Shallow limit depth text depth' behind)
    (there : Deep limit depth' behind rest) : Deep limit depth text rest := by
  obtain ⟨between, is, below⟩ := here
  obtain ⟨between', others, is', below'⟩ := there
  refine ⟨between ++ between', others, ?_, List.forall_mem_append.mpr ⟨below, below'⟩⟩
  rw [is, is', List.append_assoc]

theorem Shallow.opening {c : Char} (bracket : c ∈ openingBrackets) (within : depth < limit) :
    Shallow limit depth (c :: rest) (depth + 1) rest :=
  ⟨[⟨depth + 1, c :: rest⟩], openings_opening bracket, List.forall_mem_singleton.mpr within⟩

theorem Shallow.closing {c : Char} (bracket : c ∈ closingBrackets) :
    Shallow limit (depth + 1) (c :: rest) depth rest :=
  .of_eq (openings_closing bracket)

theorem Shallow.unmarked {c : Char} (unmarked : c ∉ marks) :
    Shallow limit depth (c :: rest) depth rest :=
  .of_eq (openings_unmarked unmarked)

theorem Trivia.shallow (h : Trivia text rest) : Shallow limit depth text depth rest :=
  .of_eq h.openings_eq

theorem Deep.opening {c : Char} (bracket : c ∈ openingBrackets) :
    Deep limit limit (c :: rest) (c :: rest) :=
  ⟨[], _, openings_opening bracket, by simp⟩

end limits

/-- What a reader makes of a piece in front of a rest: it reads the piece, in which no bracket is
above the limit, or it refuses at the first bracket that is. -/
inductive Answers {α : Type} (limit depth : Nat) {text : List Char} (value : α) (depth' : Nat)
    (rest : List Char) (result : Except Fault (Step α text)) : Prop
  | read (yields : Yields result value rest) (shallow : Shallow limit depth text depth' rest)
  | refused {place : List Char} (refused : result = .error ⟨.tooDeep, place⟩)
      (deep : Deep limit depth text place)

/-- A reader reads the pieces of a grammar as far as the limit allows. -/
def Bounds {α : Type} (limit depth : Nat) (reader : Parser α) (grammar : Grammar α) : Prop :=
  ∀ {text : List Char} {value : α} {rest : List Char}, grammar text value rest → Delimited rest →
    Answers limit depth value depth rest (reader text)

/-- What is read or refused in a later text, in front of which no bracket is above the limit, is
read or refused in the text. -/
theorem Answers.later {α β : Type} {limit depth depth' depth'' : Nat} {text inner rest : List Char}
    {value : α} {value' : β} {result : Except Fault (Step α inner)}
    {whole : Except Fault (Step β text)} (answer : Answers limit depth' value depth'' rest result)
    (before : Shallow limit depth text depth' inner)
    (reads : Yields result value rest → Yields whole value' rest)
    (refuses : ∀ fault, result = .error fault → whole = .error fault) :
    Answers limit depth value' depth'' rest whole := by
  cases answer with
  | read yields shallow => exact .read (reads yields) (before.trans shallow)
  | refused refused deep => exact .refused (refuses _ refused) (before.deep deep)

/-! ### Sequences -/

section items

variable {α : Type} {limit depth : Nat} {item : Parser α} {grammar : Grammar α} {close : Char}
  {unterminated : Cause}

theorem mem_separators_of_closing (closes : close ∈ closingBrackets) :
    close ∈ separators ∧ close ≠ ',' := by
  have both : ∀ d ∈ closingBrackets, d ∈ separators ∧ d ≠ ',' :=
    List.all_iff_forall_prop.mp (by decide)
  exact both close closes

/-- Items are read up to the bracket that closes, or the first of them that cannot be is refused. -/
theorem answers_elements (closes : close ∈ closingBrackets) (begins : Begins grammar)
    (bounds : Bounds limit (depth + 1) item grammar) {text : List Char} {found : List α × Bool}
    {rest : List Char} (h : Elements grammar close text found rest) :
    ∀ {comma : Bool}, Answers limit (depth + 1) found depth rest
      (items item close unterminated comma text) := by
  obtain ⟨separates, noComma⟩ := mem_separators_of_closing closes
  have commaSeparates : ',' ∈ separators := by decide
  have commaUnmarked : ',' ∉ marks := by decide
  induction h with
  | last before first after =>
    intro comma
    obtain ⟨c, more, rfl, starts, noClose⟩ := starts_first grammar begins separates before first
    cases bounds first (after.delimited separates) with
    | read yields shallow =>
      exact .read (items_last noComma starts noClose yields (after.eq_separator separates))
        (before.shallow.trans (shallow.trans (after.shallow.trans (.closing closes))))
    | refused refused deep =>
      exact .refused (items_refused_first starts noClose refused) (before.shallow.deep deep)
  | comma before first after ends =>
    intro comma
    obtain ⟨c, more, rfl, starts, noClose⟩ := starts_first grammar begins separates before first
    cases bounds first (after.delimited commaSeparates) with
    | read yields shallow =>
      exact .read (items_more starts noClose yields (after.eq_separator commaSeparates)
          (items_closed (ends.eq_separator separates)))
        (before.shallow.trans (shallow.trans (after.shallow.trans
          ((Shallow.unmarked commaUnmarked).trans (ends.shallow.trans (.closing closes))))))
    | refused refused deep =>
      exact .refused (items_refused_first starts noClose refused) (before.shallow.deep deep)
  | more before first after further ih =>
    intro comma
    obtain ⟨c, more, rfl, starts, noClose⟩ := starts_first grammar begins separates before first
    cases bounds first (after.delimited commaSeparates) with
    | read yields shallow =>
      -- The brackets of the first item are closed again, so the others start at the same depth.
      have separated := after.eq_separator commaSeparates
      exact ih.later
        (before.shallow.trans (shallow.trans (after.shallow.trans (.unmarked commaUnmarked))))
        (items_more starts noClose yields separated)
        fun _ => items_refused_later starts noClose yields separated
    | refused refused deep =>
      exact .refused (items_refused_first starts noClose refused) (before.shallow.deep deep)

/-- **A sequence is read up to the bracket that closes it, or refused where an item of it is.** -/
theorem answers_sequence (unterminated : Cause) (closes : close ∈ closingBrackets)
    (begins : Begins grammar) (bounds : Bounds limit (depth + 1) item grammar) {text : List Char}
    {found : List α × Bool} {rest : List Char} (h : Sequence grammar close text found rest) :
    Answers limit (depth + 1) found depth rest (items item close unterminated false text) := by
  cases h with
  | empty ends =>
    have separates := (mem_separators_of_closing closes).1
    exact .read (items_closed (ends.eq_separator separates)) (ends.shallow.trans (.closing closes))
  | elements elements => exact answers_elements closes begins bounds elements

end items

/-! ### Containers -/

section containers

variable {limit depth : Nat} {reader : Parser Value} {grammar : Grammar Value}

theorem bounds_entry (begins : Begins grammar) (bounds : Bounds limit depth reader grammar) :
    Bounds limit depth (entry reader) (EntryText grammar) := by
  intro text found rest h delimited
  cases h with
  | mk named colon before holds =>
    have colonSeparates : ':' ∈ separators := by decide
    have name := yields_key named (colon.delimited colonSeparates)
    have colon_eq := colon.eq_separator colonSeparates
    obtain ⟨c, more, rfl, starts⟩ := begins holds
    have starts := before.eq_afterTrivia (starts.afterTrivia_eq more)
    refine (bounds holds delimited).later ?_
      (fun held => yields_entry name colon_eq (starts ▸ held))
      fun _ refused => entry_refused name colon_eq (starts ▸ refused)
    exact (Shallow.of_eq named.openings_eq).trans
      (colon.shallow.trans ((Shallow.unmarked (by decide)).trans before.shallow))

/-- **A container within the limit is read, or refused where something in it is.** -/
theorem answers_container {levels : Nat} (begins : Begins grammar)
    (bounds : Bounds limit (depth + 1) (value levels) grammar) (within : depth < limit)
    {text rest : List Char} {found : Value} (h : Container grammar text found rest) :
    Answers limit depth found depth rest (value (levels + 1) text) := by
  cases h with
  | list sequence =>
    exact (answers_sequence .unterminatedSequence (by decide) begins bounds sequence).later
      (.opening (by decide) within) (fun read => yields_map_behind_iff.mpr ⟨_, read, rfl⟩)
      fun _ refused => bind_eq_error_iff.mpr (.inl refused)
  | parenthesized sequence =>
    exact (answers_sequence .unterminatedSequence (by decide) begins bounds sequence).later
      (.opening (by decide) within) (fun read => yields_map_behind_iff.mpr ⟨_, read, rfl⟩)
      fun _ refused => bind_eq_error_iff.mpr (.inl refused)
  | tuple sequence told =>
    exact (answers_sequence .unterminatedSequence (by decide) begins bounds sequence).later
      (.opening (by decide) within)
      (fun read => yields_map_behind_iff.mpr ⟨_, read, tupleValue_of_told told⟩)
      fun _ refused => bind_eq_error_iff.mpr (.inl refused)
  | mapping sequence means =>
    exact (answers_sequence .unterminatedMapping (by decide) begins_entry
        (bounds_entry begins bounds) sequence).later
      (.opening (by decide) within) (fun read => yields_mapping_iff.mpr ⟨_, read, means⟩)
      fun _ refused => bind_eq_error_iff.mpr (.inl refused)

end containers

/-! ### Literals -/

/-- A literal has no container, or it is one of literals with some number of levels. -/
theorem scalar_or_container {levels : Nat} {text rest : List Char} {found : Value}
    (h : LiteralText levels text found rest) :
    Scalar text found rest ∨ ∃ inner, Container (LiteralText inner) text found rest := by
  cases levels with
  | zero => exact .inl h
  | succ inner => exact h.imp_right fun container => ⟨inner, container⟩

/-- **Literals of any number of levels are read up to the limit**, by induction on how many levels
the parser may still open. -/
theorem bounds_value {limit : Nat} (allowance : Nat) :
    ∀ {depth : Nat}, depth + allowance = limit →
      ∀ levels, Bounds limit depth (value allowance) (LiteralText levels) := by
  induction allowance with
  | zero =>
    rintro depth rfl levels text found rest h delimited
    rcases scalar_or_container h with scalar | ⟨inner, container⟩
    · exact .read (value_of_scalar 0 scalar delimited) (.of_eq scalar.openings_eq)
    · obtain ⟨c, more, rfl, bracket⟩ := container.start
      exact .refused (value_zero_bracket bracket more) (.opening bracket)
  | succ allowance ih =>
    rintro depth sum levels text found rest h delimited
    rcases scalar_or_container h with scalar | ⟨inner, container⟩
    · exact .read (value_of_scalar (allowance + 1) scalar delimited) (.of_eq scalar.openings_eq)
    · have bounds : Bounds limit (depth + 1) (value allowance) (LiteralText inner) :=
        ih (by omega) inner
      exact answers_container (begins_literal inner) bounds (by omega) container

/-! ### Documents -/

/-- A text is a literal of a value between trivia, no matter how many containers are inside one
another. -/
def DenotesAtAnyDepth (text : List Char) (found : Value) : Prop :=
  ∃ levels body behind, Trivia text body ∧ LiteralText levels body found behind ∧ Trivia behind []

/-- What becomes of the text of a literal: it is read and no bracket in it is above the limit, or it
is refused at the first bracket that is. -/
theorem document_of_denotes {text : List Char} {found : Value}
    (denotes : DenotesAtAnyDepth text found) :
    (document text = .ok found ∧ Shallow nestingLimit 0 text 0 []) ∨
      ∃ place, document text = .error ⟨.tooDeep, place⟩ ∧ Deep nestingLimit 0 text place := by
  obtain ⟨levels, body, behind, before, literal, after⟩ := denotes
  obtain ⟨c, more, rfl, starts⟩ := begins_literal levels literal
  have skipped := before.eq_afterTrivia (starts.afterTrivia_eq more)
  cases bounds_value nestingLimit (Nat.zero_add _) levels literal after.delimited_end with
  | read yields shallow =>
    refine .inl ⟨document_eq_ok_iff.mpr ⟨behind, skipped ▸ yields, after.eq_afterTrivia rfl⟩, ?_⟩
    exact before.shallow.trans (shallow.trans after.shallow)
  | @refused place refused deep =>
    refine .inr ⟨place, bind_eq_error_iff.mpr (.inl ?_), before.shallow.deep deep⟩
    rw [skipped, refused]

/-- **The limit on nesting is where it should be.**  A text that is a literal but for the number of
brackets inside one another is read if no bracket is above level 64.  Otherwise it is refused for
that reason at the first bracket of level 65. -/
theorem parse_nested {text : String} {found : Value}
    (denotes : DenotesAtAnyDepth text.toList found) :
    ((∀ opening ∈ openings .plain 0 text.toList, opening.level ≤ 64) → parse text = .ok found) ∧
      ((∃ opening ∈ openings .plain 0 text.toList, 64 < opening.level) →
        ∃ before rest, before ++ rest = text.toList ∧
          (openings .plain 0 text.toList).find? (·.level = 65) = some ⟨65, rest⟩ ∧
          parse text = .error ⟨.behind before, .tooDeep⟩ ∧
          Cause.tooDeep.message = "nesting deeper than 64 levels") := by
  rcases document_of_denotes denotes with ⟨read, between, is, below⟩ | ⟨place, refused, deep⟩
  · refine ⟨fun _ => mapError_eq_ok_iff.mpr read, ?_⟩
    rintro ⟨opening, member, above⟩
    rw [is, openings, List.append_nil] at member
    exact absurd above (Nat.not_lt.mpr (below opening member))
  · obtain ⟨between, others, is, below⟩ := deep
    constructor
    · intro within
      have member : ⟨nestingLimit + 1, place⟩ ∈ openings .plain 0 text.toList := by
        rw [is]
        exact List.mem_append_right _ List.mem_cons_self
      exact absurd (within _ member) (Nat.not_succ_le_self 64)
    · intro _
      obtain ⟨before, split⟩ := refusesIn_document text.toList _ refused
      refine ⟨before, place, split, ?_, ?_, by decide⟩
      · have skipped : between.find? (·.level = 65) = none := by
          rw [List.find?_eq_none]
          intro opening member
          have apart : opening.level ≠ 65 := Nat.ne_of_lt (Nat.lt_succ_of_le (below opening member))
          simpa using apart
        rw [is, List.find?_append, skipped, Option.none_or]
        rfl
      · rw [parse, refused]
        exact congrArg Except.error (Fault.locate_eq split)

/-- A list in a list and so on. -/
def nestedList : Nat → Value
  | 0 => .list []
  | levels + 1 => .list [nestedList levels]

theorem literal_nestedList (levels : Nat) (rest : List Char) :
    LiteralText (levels + 1)
      (List.replicate (levels + 1) '[' ++ (List.replicate (levels + 1) ']' ++ rest))
      (nestedList levels) rest := by
  induction levels generalizing rest with
  | zero => exact .inr (.list (.empty (.none _)))
  | succ levels ih =>
    have closing : List.replicate (levels + 1 + 1) ']' ++ rest =
        List.replicate (levels + 1) ']' ++ ']' :: rest := by
      rw [List.replicate_succ', List.append_assoc, List.singleton_append]
    rw [List.replicate_succ, closing, List.cons_append]
    exact .inr (.list (.elements (.last (.none _) (ih _) (.none _))))

/-- The text of 64 lists inside one another. -/
def nestedText : List Char :=
  List.replicate 64 '[' ++ List.replicate 64 ']'

/-- The text in which they stand in a list, behind brackets in a string and in a comment. -/
def deeperText : List Char :=
  ['[', '\'', '[', '\'', ',', ' ', '#', ' ', '(', '\n'] ++ (nestedText ++ [']'])

theorem nested_read_and_deeper_refused :
    DenotesAtAnyDepth nestedText (nestedList 63) ∧
      DenotesAtAnyDepth deeperText (.list [.string "[", nestedList 63]) ∧
      (∀ opening ∈ openings .plain 0 nestedText, opening.level ≤ 64) ∧
      (∃ opening ∈ openings .plain 0 deeperText, 64 < opening.level) ∧
      parse (String.ofList nestedText) = .ok (nestedList 63) ∧
      parse (String.ofList deeperText) = .error ⟨⟨2, 64⟩, .tooDeep⟩ := by
  have nested : DenotesAtAnyDepth nestedText (nestedList 63) := by
    refine ⟨64, _, [], .none _, ?_, .none []⟩
    have literal := literal_nestedList 63 []
    rwa [List.append_nil] at literal
  have deeper : DenotesAtAnyDepth deeperText (.list [.string "[", nestedList 63]) := by
    have bracket : StringsText ('\'' :: '[' :: '\'' :: ',' :: ' ' :: '#' :: ' ' :: '(' :: '\n' ::
          (nestedText ++ [']'])) ['[']
        (',' :: ' ' :: '#' :: ' ' :: '(' :: '\n' :: (nestedText ++ [']'])) :=
      .one rfl (.part (.plain (by decide) (by decide) (by decide)) (.close _))
    have apart : Trivia (' ' :: '#' :: ' ' :: '(' :: '\n' :: (nestedText ++ [']']))
        (nestedText ++ [']']) :=
      .blank (by decide) (@Trivia.comment [' ', '('] _ _ (by decide) (.none _))
    have inner : LiteralText 64 (nestedText ++ [']']) (nestedList 63) [']'] := by
      rw [nestedText, List.append_assoc]
      exact literal_nestedList 63 [']']
    have outer := Elements.more (.none _) (Or.inl (.string bracket)) (.none _)
      (Elements.last apart inner (.none _))
    exact ⟨65, deeperText, [], .none _, .inr (.list (.elements outer)), .none []⟩
  have within : ∀ opening ∈ openings .plain 0 nestedText, opening.level ≤ 64 :=
    List.all_iff_forall_prop.mp (by decide +kernel)
  have first : (openings .plain 0 deeperText).find? (·.level = 65) =
      some ⟨65, '[' :: List.replicate 65 ']'⟩ := by decide +kernel
  have above : ∃ opening ∈ openings .plain 0 deeperText, 64 < opening.level :=
    ⟨_, List.mem_of_find?_eq_some first, by decide⟩
  refine ⟨nested, deeper, within, above, ?_, ?_⟩
  · have same : (String.ofList nestedText).toList = nestedText := String.toList_ofList
    rw [← same] at nested within
    exact (parse_nested nested).1 within
  · have same : (String.ofList deeperText).toList = deeperText := String.toList_ofList
    rw [← same] at deeper above
    obtain ⟨before, rest, split, found, refused, -⟩ := (parse_nested deeper).2 above
    rw [same] at split found
    obtain rfl : rest = '[' :: List.replicate 65 ']' :=
      congrArg Opening.rest (Option.some.inj (found.symm.trans first))
    have front : before =
        ['[', '\'', '[', '\'', ',', ' ', '#', ' ', '(', '\n'] ++ List.replicate 63 '[' := by
      refine List.append_cancel_right (split.trans ?_)
      decide +kernel
    have place : Position.behind before = ⟨2, 64⟩ := by
      rw [front]
      decide +kernel
    rw [refused, place]

end DumpDigest.Literal
