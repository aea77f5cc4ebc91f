import DumpDigest.Proofs.Literal.Acceptance
import DumpDigest.Proofs.Literal.Cursor
import DumpDigest.Proofs.Literal.Termination

/-!
# The places of refusals

The parser that keeps its place does what the parser does, step by step: `Agree` compares a reading
of the one with a reading of the other, and each reader of the one `Tracks` the reader of the other
that it is named for.  `trackDocument_eq_parse` puts them together, and with it the places that the
parser computes in the end are those of the states in which it refuses.  `refused_at_place` is the
main result.
-/

namespace DumpDigest.Literal

open Text (Step)
open Result

variable {α β : Type} {text : List Char}

/-! ### Agreement -/

/-- A reading that keeps its place and a plain one agree: both succeed with related results, or both
refuse for the same cause, at a state in which the rest of the fault remains. -/
inductive Agree {γ δ : Type} (text : List Char) (Related : γ → δ → Prop) :
    Except ParseError γ → Except Fault δ → Prop
  | ok {here : γ} {there : δ} (related : Related here there) :
    Agree text Related (.ok here) (.ok there)
  | refused (cursor : Cursor text) (cause : Cause) :
    Agree text Related (.error (cursor.refuse cause)) (.error ⟨cause, cursor.rest⟩)

theorem Agree.bind {γ γ' δ δ' : Type} {Related : γ → δ → Prop} {Related' : γ' → δ' → Prop}
    {here : Except ParseError γ} {there : Except Fault δ} {next : γ → Except ParseError γ'}
    {next' : δ → Except Fault δ'} (first : Agree text Related here there)
    (second : ∀ value value', Related value value' →
      Agree text Related' (next value) (next' value')) :
    Agree text Related' (here >>= next) (there >>= next') := by
  cases first with
  | ok related => exact second _ _ related
  | refused cursor cause => exact .refused cursor cause

/-- A passage is a step: it has the same value, and the same remains. -/
def Passage.Is {cursor : Cursor text} {inner : List Char} (passage : Passage α cursor)
    (step : Step α inner) : Prop :=
  passage.value = step.value ∧ passage.next.rest = step.rest

theorem Passage.Is.map {cursor : Cursor text} {inner : List Char} {passage : Passage α cursor}
    {step : Step α inner} (same : passage.Is step) (f : α → β) : (passage.map f).Is (step.map f) :=
  ⟨congrArg f same.1, same.2⟩

theorem Passage.Is.rest_skipTrivia {cursor : Cursor text} {inner : List Char}
    {passage : Passage α cursor} {step : Step α inner} (same : passage.Is step) :
    passage.next.skipTrivia.rest = afterTrivia step.rest := by
  rw [Cursor.rest_skipTrivia, same.2]

theorem agree_refused {γ δ : Type} {Related : γ → δ → Prop} {cursor : Cursor text} {cause : Cause}
    {rest : List Char} (remains : cursor.rest = rest) :
    Agree text Related (.error (cursor.refuse cause)) (.error ⟨cause, rest⟩) := by
  subst remains
  exact .refused cursor cause

/-- A reader that keeps its place does what a plain reader does. -/
def Tracks (tracker : Tracker α) (reader : Parser α) : Prop :=
  ∀ ⦃text : List Char⦄ (cursor : Cursor text),
    Agree text Passage.Is (tracker cursor) (reader cursor.rest)

theorem agree_carry (cursor : Cursor text) (result : Except Fault (Step α cursor.rest))
    (refuses : RefusesIn cursor.rest result) :
    Agree text Passage.Is (cursor.carry result refuses) result := by
  cases result with
  | ok step => exact .ok ⟨rfl, Cursor.rest_moveTo cursor step.suffix⟩
  | error fault => exact agree_refused (Cursor.rest_moveTo _ _)

theorem tracks_track (reader : Parser α) (careful : Careful reader) :
    Tracks (reader.track careful) reader :=
  fun _ cursor => agree_carry cursor _ _

namespace Cursor

/-! ### Strings -/

theorem agree_stringBody (opening : Cursor text) (quote : Char) (cursor : Cursor text) :
    Agree text Passage.Is (stringBody opening quote cursor)
      (Literal.stringBody opening.rest quote cursor.rest) := by
  generalize remains : cursor.rest = rest
  induction rest using Literal.stringBody.induct quote generalizing cursor with
  | case1 =>
    unfold stringBody
    rw [Literal.stringBody, next?_eq_none_iff.mpr remains]
    exact .refused opening _
  | case2 rest =>
    obtain ⟨c, next, rfl, behind⟩ := next?_eq_some remains
    unfold stringBody
    rw [next, Literal.stringBody, if_pos rfl]
    simp only [if_true]
    exact .ok ⟨rfl, behind⟩
  | case3 rest noQuote =>
    obtain ⟨c, next, is, behind⟩ := next?_eq_some remains
    unfold stringBody
    rw [next, Literal.stringBody, if_neg noQuote, if_pos rfl]
    simp only [is, if_neg noQuote, if_true]
    exact .refused opening _
  | case4 rest noQuote noBreak ih =>
    obtain ⟨c, next, is, rfl⟩ := next?_eq_some remains
    unfold stringBody
    rw [next, Literal.stringBody, if_neg noQuote, if_neg noBreak, if_pos rfl]
    simp only [is, if_neg noQuote, if_neg noBreak, if_true]
    refine (tracks_track escape careful_escape c.next).bind fun escaped step same => ?_
    refine (ih step escaped.next same.2).bind fun body step' same' => ?_
    rw [same.1]
    exact .ok (same'.map _)
  | case5 c rest noQuote noBreak noBackslash ih =>
    obtain ⟨d, next, rfl, rfl⟩ := next?_eq_some remains
    unfold stringBody
    rw [next, Literal.stringBody, if_neg noQuote, if_neg noBreak, if_neg noBackslash]
    simp only [if_neg noQuote, if_neg noBreak, if_neg noBackslash]
    refine (ih d.next rfl).bind fun body step same => ?_
    exact .ok (same.map _)

/-- Strings next to one another: trivia behind a string is passed over, and where no string follows,
the state is the one that was saved. -/
theorem agree_strings (quote : Char) (body : List Char) (cursor : Cursor text)
    (remains : cursor.rest = quote :: body) :
    Agree text Passage.Is cursor.strings (Literal.strings quote body) := by
  induction hn : body.length using Nat.strongRecOn generalizing quote body cursor with
  | ind n ih =>
    subst hn
    obtain ⟨c, next, rfl, rfl⟩ := next?_eq_some remains
    unfold strings Literal.strings
    rw [next]
    have first := agree_stringBody cursor c.value c.next
    rw [remains] at first
    refine first.bind fun first step same => ?_
    have ahead : (first.widen c.shorter).skipTrivia.next.rest = afterTrivia step.rest :=
      same.rest_skipTrivia
    dsimp only
    rw [ahead]
    by_cases another : (afterTrivia step.rest).head?.any isQuote = true
    · rw [if_pos another]
      split
      · next ends =>
        rw [ends] at another
        cases another
      · next d more follows =>
        rw [follows, List.head?_cons, Option.any_some] at another
        rw [if_pos another]
        have shorter : more.length < c.next.rest.length :=
          Nat.lt_trans (suffix_of_afterTrivia follows).length_le step.shorter
        refine (ih _ shorter d more _ (ahead.trans follows) rfl).bind fun others step' same' => ?_
        rw [← same.1]
        exact .ok (same'.map _)
    · -- No string follows, and the state is the saved one.
      rw [if_neg another]
      split
      · exact .ok same
      · next d more follows =>
        rw [follows, List.head?_cons, Option.any_some] at another
        rw [if_neg another]
        exact .ok same

/-! ### Containers -/

section separator

variable (close : Char) (unterminated : Cause) {cursor : Cursor text} {c : Char} {rest : List Char}

theorem separator_nil (ends : cursor.rest = []) :
    separator close unterminated cursor = .error (cursor.refuse unterminated) := by
  rw [separator, next?_eq_none_iff.mpr ends]

theorem separator_comma (ahead : cursor.rest = ',' :: rest) :
    ∃ parted, separator close unterminated cursor = .ok parted ∧ parted.value = true ∧
      parted.next.rest = rest := by
  obtain ⟨comma, next, is, behind⟩ := next?_eq_some ahead
  rw [separator, next]
  dsimp only
  rw [if_pos is]
  exact ⟨_, rfl, rfl, behind⟩

theorem separator_close (ahead : cursor.rest = close :: rest) (noComma : close ≠ ',') :
    ∃ parted, separator close unterminated cursor = .ok parted ∧ parted.value = false ∧
      parted.next.rest = rest := by
  obtain ⟨bracket, next, rfl, behind⟩ := next?_eq_some ahead
  rw [separator, next]
  dsimp only
  rw [if_neg noComma, if_pos rfl]
  exact ⟨_, rfl, rfl, behind⟩

theorem separator_other (ahead : cursor.rest = c :: rest) (noComma : c ≠ ',')
    (noClose : c ≠ close) :
    separator close unterminated cursor =
      .error (cursor.refuse (.expectedSeparator close c)) := by
  obtain ⟨other, next, rfl, -⟩ := next?_eq_some ahead
  rw [separator, next]
  dsimp only
  rw [if_neg noComma, if_neg noClose]

end separator

/-- The loop over items, by the length of what remains. -/
theorem agree_items {item : Tracker α} {reader : Parser α} (tracks : Tracks item reader)
    (close : Char) (unterminated : Cause) (comma : Bool) (cursor : Cursor text) :
    Agree text Passage.Is (items item close unterminated comma cursor)
      (Literal.items reader close unterminated comma cursor.rest) := by
  induction hn : cursor.rest.length using Nat.strongRecOn generalizing cursor comma with
  | ind n ih =>
    subst hn
    have skipped := cursor.rest_skipTrivia
    have first := tracks cursor.skipTrivia
    unfold Literal.items
    split
    · next c rest starts =>
      obtain ⟨bracket, next, rfl, rfl⟩ := next?_eq_some (skipped.trans starts)
      unfold items
      by_cases closes : bracket.value = close
      · rw [next, Option.filter_some, if_pos (decide_eq_true closes), if_pos closes]
        exact .ok ⟨rfl, rfl⟩
      rw [next, Option.filter_some, if_neg (by simpa using closes), if_neg closes]
      rw [skipped, starts] at first
      refine first.bind fun first step same => ?_
      have ahead : first.skipTrivia.next.rest = afterTrivia step.rest := same.rest_skipTrivia
      dsimp only
      -- Behind the item the text ends, or a comma stands there, or something else.
      split
      · next ends =>
        rw [separator_nil _ _ (ahead.trans ends)]
        exact agree_refused (ahead.trans ends)
      · next behind separates =>
        obtain ⟨parted, is, comma, rfl⟩ :=
          separator_comma close unterminated (ahead.trans separates)
        rw [is, ← same.1]
        show Agree _ _ (ite (parted.value = true) _ _) _
        rw [if_pos comma]
        have shorter : parted.next.rest.length < cursor.rest.length :=
          (parted.widen first.skipTrivia.shorter).overTrivia.shorter
        refine (ih _ shorter true parted.next rfl).bind fun others step' same' => ?_
        exact .ok (same'.map fun found => (first.value :: found.1, found.2))
      · next c behind noComma separates =>
        by_cases ends : c = close
        · subst ends
          obtain ⟨parted, is, noMore, rfl⟩ :=
            separator_close c unterminated (ahead.trans separates) fun comma => noComma comma
          rw [is, ← same.1, if_pos rfl]
          show Agree _ _ (ite (parted.value = true) _ _) _
          rw [if_neg (by rw [noMore]; decide)]
          exact .ok ⟨rfl, rfl⟩
        · rw [separator_other _ _ (ahead.trans separates) (fun comma => noComma comma) ends,
            if_neg ends]
          exact agree_refused (ahead.trans separates)
    · -- At the end of the text an item is asked for too, and none can be there.
      next ends =>
      unfold items
      rw [next?_eq_none_iff.mpr (skipped.trans ends), Option.filter_none]
      rw [skipped, ends] at first
      generalize item cursor.skipTrivia = tracked at first ⊢
      generalize reader [] = plain at first ⊢
      cases first with
      | @ok _ step _ => exact absurd step.shorter (Nat.not_lt_zero _)
      | refused cursor cause => exact .refused cursor cause

theorem tracks_key : Tracks key Literal.key := by
  intro text cursor
  unfold key
  cases remains : cursor.rest with
  | nil =>
    rw [next?_eq_none_iff.mpr remains]
    exact agree_refused remains
  | cons c rest =>
    obtain ⟨passage, next, rfl, rfl⟩ := next?_eq_some remains
    rw [next]
    unfold Literal.key
    dsimp only
    by_cases quotes : isQuote passage.value = true
    · rw [if_pos quotes, if_pos quotes]
      exact (agree_strings _ _ cursor remains).bind fun found step same => .ok (same.map _)
    rw [if_neg quotes, if_neg quotes]
    split
    · have read := tracks_track number careful_number cursor
      rw [remains] at read
      refine read.bind fun found step same => ?_
      rw [same.1]
      cases step.value with
      | int value => exact .ok ⟨rfl, same.2⟩
      | float value => exact agree_refused remains
    · exact agree_refused remains

variable {tracker : Tracker Value} {reader : Parser Value}

theorem tracks_entry (tracks : Tracks tracker reader) :
    Tracks (entry tracker) (Literal.entry reader) := by
  intro text cursor
  unfold entry Literal.entry
  refine (tracks_key cursor).bind fun key step same => ?_
  have ahead : key.skipTrivia.next.rest = afterTrivia step.rest := same.rest_skipTrivia
  dsimp only
  cases next : key.skipTrivia.next.next? with
  | none =>
    have ends := ahead.symm.trans (next?_eq_none_iff.mp next)
    dsimp only
    split
    · next colon => cases ends.symm.trans colon
    · rw [ends]
      exact agree_refused (ahead.trans ends)
  | some c =>
    have there := ahead.symm.trans (rest_of_next? next)
    dsimp only
    by_cases colon : c.value = ':'
    · rw [if_pos colon]
      split
      · next behind separates =>
        obtain ⟨-, rfl⟩ := List.cons.inj (there.symm.trans separates)
        have held := tracks c.skipTrivia.next
        rw [show c.skipTrivia.next.rest = afterTrivia c.next.rest from rest_skipTrivia _] at held
        refine held.bind fun found step' same' => ?_
        rw [← same.1]
        exact .ok (same'.map (key.value, ·))
      · next other => exact absurd (there.trans (by rw [colon])) (other _)
    · rw [if_neg colon]
      split
      · next behind separates => exact absurd (List.cons.inj (there.symm.trans separates)).1 colon
      · rw [there]
        exact agree_refused (ahead.trans there)

theorem agree_container {item : Tracker α} {reader : Parser α} (tracks : Tracks item reader)
    (close : Char) (unterminated : Cause) (make : List α × Bool → Except Cause Value)
    (cursor : Cursor text) {bracket : Char} {body : List Char}
    (remains : cursor.rest = bracket :: body) :
    Agree text Passage.Is (container item close unterminated make cursor)
      (do
        let contents ← Literal.items reader close unterminated false body
        match make contents.value with
        | .error cause => throw ⟨cause, bracket :: body⟩
        | .ok value => return (contents.map fun _ => value).behind bracket) := by
  obtain ⟨opening, next, rfl, rfl⟩ := next?_eq_some remains
  unfold container
  rw [next]
  refine (agree_items tracks close unterminated false opening.next).bind
    fun contents step same => ?_
  rw [same.1]
  cases make step.value with
  | error cause => exact agree_refused remains
  | ok value => exact .ok ⟨rfl, same.2⟩

theorem tracks_scalar : Tracks scalar Literal.scalar := by
  intro text cursor
  unfold scalar
  split
  · next quotes =>
    cases remains : cursor.rest with
    | nil =>
      rw [remains] at quotes
      cases quotes
    | cons quote rest =>
      rw [remains, List.head?_cons, Option.any_some] at quotes
      unfold Literal.scalar
      dsimp only
      rw [if_pos quotes]
      exact (agree_strings _ _ cursor remains).bind fun found step same => .ok (same.map _)
  · exact tracks_track Literal.scalar careful_scalar cursor

/-- Values agree, by induction on the levels of containers. -/
theorem tracks_value (levels : Nat) : Tracks (value levels) (Literal.value levels) := by
  induction levels with
  | zero =>
    intro text cursor
    have plain := tracks_scalar cursor
    unfold value
    cases remains : cursor.rest with
    | nil =>
      rw [remains] at plain
      rw [value_nil]
      exact plain
    | cons c body =>
      rw [remains] at plain
      by_cases bracket : c ∈ openingBrackets
      · rw [value_zero_bracket bracket, List.head?_cons, Option.any_some,
          if_pos (decide_eq_true bracket)]
        exact agree_refused remains
      · rw [value_scalar bracket, List.head?_cons, Option.any_some,
          if_neg (by simpa using bracket)]
        exact plain
  | succ levels ih =>
    intro text cursor
    have plain := tracks_scalar cursor
    unfold value
    cases remains : cursor.rest with
    | nil =>
      rw [remains] at plain
      rw [value_nil]
      exact plain
    | cons c body =>
      rw [remains] at plain
      by_cases bracket : c ∈ openingBrackets
      · simp only [openingBrackets, List.mem_cons, List.not_mem_nil, or_false] at bracket
        rcases bracket with rfl | rfl | rfl
        · exact agree_container (tracks_entry ih) _ _ _ cursor remains
        · exact agree_container ih _ _ _ cursor remains
        · exact agree_container ih _ _ _ cursor remains
      · obtain ⟨noBrace, noSquare, noRound⟩ : c ≠ '\x7b' ∧ c ≠ '[' ∧ c ≠ '(' := by
          simpa [openingBrackets] using bracket
        rw [value_scalar bracket, List.head?_cons]
        split
        · next is => exact absurd (Option.some.inj is) noBrace
        · next is => exact absurd (Option.some.inj is) noSquare
        · next is => exact absurd (Option.some.inj is) noRound
        · exact plain

end Cursor

theorem agree_document (text : List Char) :
    Agree text Eq (trackDocument text) (document text) := by
  have skipped := (Cursor.start text).rest_skipTrivia
  have read := Cursor.tracks_value nestingLimit (Cursor.start text).skipTrivia
  rw [skipped] at read
  unfold trackDocument document
  refine read.bind fun found step same => ?_
  have ahead := same.rest_skipTrivia
  dsimp only
  cases next : found.next.skipTrivia.next? with
  | none =>
    have ends := ahead.symm.trans (Cursor.next?_eq_none_iff.mp next)
    rw [ends]
    exact .ok same.1
  | some c =>
    have there := ahead.symm.trans (Cursor.rest_of_next? next)
    rw [there]
    exact agree_refused (ahead.trans there)

theorem refusesIn_document (text : List Char) : RefusesIn text (document text) := by
  intro fault refused
  have agree := agree_document text
  rw [refused] at agree
  generalize trackDocument text = tracked at agree
  cases agree with
  | refused cursor cause => exact ⟨cursor.read, cursor.append_eq⟩

/-! ### Places in the text -/

theorem Fault.locate_eq {fault : Fault} {text before : List Char}
    (split : before ++ fault.rest = text) : fault.locate text = ⟨.behind before, fault.cause⟩ := by
  subst split
  have front : (before ++ fault.rest).take ((before ++ fault.rest).length - fault.rest.length) =
      before := by
    rw [List.length_append, Nat.add_sub_cancel, List.take_left]
  rw [locate, front, Position.after_eq_behind]

/-- The place of a state is the one that is computed in the end from what remains. -/
theorem Cursor.refuse_eq_locate {text : List Char} (cursor : Cursor text) (cause : Cause) :
    cursor.refuse cause = (⟨cause, cursor.rest⟩ : Fault).locate text := by
  rw [Fault.locate_eq cursor.append_eq, refuse, cursor.place_eq]

/-- **The parser that keeps its place is the parser.** -/
theorem trackDocument_eq_parse (text : String) : trackDocument text.toList = parse text := by
  have agree := agree_document text.toList
  rw [parse]
  generalize trackDocument text.toList = tracked at agree ⊢
  generalize document text.toList = plain at agree ⊢
  cases agree with
  | ok same => exact congrArg Except.ok same
  | refused cursor cause => exact congrArg Except.error (cursor.refuse_eq_locate cause)

/-- Whether a place is one of a text: its line is counted by the line breaks of what stands in front
of it, and its column by the characters behind the last of them. -/
def IsPlace (text : List Char) (place : Position) : Prop :=
  ∃ front rest, front ++ rest = text ∧ place.line = 1 + front.count '\n' ∧
    place.column = 1 + (front.reverse.takeWhile (· ≠ '\n')).length

theorem Cursor.isPlace {text : List Char} (cursor : Cursor text) : IsPlace text cursor.place := by
  refine ⟨cursor.read, cursor.rest, cursor.append_eq, ?_, ?_⟩
  · rw [cursor.place_eq, Position.behind]
  · rw [cursor.place_eq, Position.behind]

theorem isPlace_of_parse {text : String} {error : ParseError}
    (refused : parse text = .error error) : IsPlace text.toList error.position := by
  obtain ⟨fault, found, rfl⟩ := mapError_eq_error_iff.mp refused
  have agree := agree_document text.toList
  rw [found] at agree
  generalize trackDocument text.toList = tracked at agree
  cases agree with
  | refused cursor cause =>
    rw [← cursor.refuse_eq_locate]
    exact cursor.isPlace

theorem isPlace_of_parseRecord {text : String} {error : ParseError}
    (refused : parseRecord text = .error error) : IsPlace text.toList error.position := by
  unfold parseRecord at refused
  split at refused
  · next other failed =>
    obtain rfl := Except.error.inj refused
    exact isPlace_of_parse failed
  · cases refused
  · obtain rfl := Except.error.inj refused
    exact (Cursor.start text.toList).isPlace

/-- **Refusals are at real places of the text**, and so is the parser in every state: it is the
parser that keeps its place, and whatever state that one is in, it has counted the lines and columns
of what it has read.  This includes the states behind a value or behind strings, where the parser
may have gone back to a saved state. -/
theorem refused_at_place :
    (∀ (text : String) error, parse text = .error error → IsPlace text.toList error.position) ∧
    (∀ (text : String) error, parseRecord text = .error error →
      IsPlace text.toList error.position) ∧
    (∀ text : String, trackDocument text.toList = parse text) ∧
    (∀ levels, Tracks (Cursor.value levels) (value levels)) ∧
    (∀ (text : List Char) (cursor : Cursor text) (quote : Char) (body : List Char),
      cursor.rest = quote :: body →
        Agree text Passage.Is cursor.strings (strings quote body)) ∧
    ∀ (text : List Char) (cursor : Cursor text),
      cursor.read ++ cursor.rest = text ∧ cursor.place.line = 1 + cursor.read.count '\n' ∧
        cursor.place.column = 1 + (cursor.read.reverse.takeWhile (· ≠ '\n')).length := by
  refine ⟨fun _ _ => isPlace_of_parse, fun _ _ => isPlace_of_parseRecord, trackDocument_eq_parse,
    Cursor.tracks_value, fun _ cursor quote body => Cursor.agree_strings quote body cursor,
    fun _ cursor => ⟨cursor.append_eq, ?_, ?_⟩⟩
  · rw [cursor.place_eq, Position.behind]
  · rw [cursor.place_eq, Position.behind]

/-- A question mark in the third line of a mapping is refused there, and a string without an end at
its opening quote, which stands behind another string and a comment.  Where a question mark follows
a string, the parser goes back to the place behind the string. -/
theorem refused_in_third_line :
    IsPlace "\x7b\n  'a' : 1,\n  'b' : ?\n\x7d".toList ⟨3, 9⟩ ∧
      IsPlace "['a' # b\n 'c\n".toList ⟨2, 2⟩ ∧ IsPlace "\n5".toList ⟨1, 1⟩ ∧
      Agree "'a'\n ?".toList Passage.Is (Cursor.start "'a'\n ?".toList).strings
        (strings '\'' "a'\n ?".toList) := by
  obtain ⟨parsed, recorded, -, -, joined, -⟩ := refused_at_place
  have mapping : parse "\x7b\n  'a' : 1,\n  'b' : ?\n\x7d" =
      .error ⟨⟨3, 9⟩, .unexpectedCharacter '?'⟩ :=
    @parse_of_scanDocument_fault 30 _ ⟨.unexpectedCharacter '?', "?\n\x7d".toList⟩ (by decide) rfl
  have string : parse "['a' # b\n 'c\n" = .error ⟨⟨2, 2⟩, .unterminatedString⟩ :=
    @parse_of_scanDocument_fault 30 _ ⟨.unterminatedString, "'c\n".toList⟩ (by decide) rfl
  have number : parseRecord "\n5" = .error ⟨⟨1, 1⟩, .notAMapping .int⟩ := by
    rw [parseRecord, @parse_of_scanDocument 30 _ (.int 5) (by decide) rfl]
    rfl
  exact ⟨parsed _ _ mapping, parsed _ _ string, recorded _ _ number,
    joined _ _ _ _ rfl⟩

end DumpDigest.Literal
