import DumpDigest.Proofs.Literal.Refusals
import DumpDigest.Proofs.Literal.Scalar
import Mathlib.Data.List.Induction

/-!
# Parsing with the place at hand

The parser computes the place of a refusal in the end, from what remains there.  Here it keeps line
and column as it goes: its state is a `Cursor`, which moves on character by character (`bump`), and
a refusal is at the place of a cursor, the present one or one that was saved.  Where several strings
may stand next to one another, trivia is passed over to look for the next one, and the parser goes
back to the saved cursor if there is none.

A cursor carries the proof that its place belongs to what has been read, so the parser cannot get
into a state in which it does not.
-/

namespace DumpDigest.Literal

open Text (Step)

/-! ### Places -/

namespace Position

/-- The place behind a text: its lines are parted by its line breaks, and its columns are counted
from the last one. -/
def behind (text : List Char) : Position :=
  ⟨1 + text.count '\n', 1 + (text.reverse.takeWhile (· ≠ '\n')).length⟩

theorem behind_concat (text : List Char) (c : Char) :
    behind (text ++ [c]) = (behind text).advance c := by
  by_cases breaks : c = '\n'
  · subst breaks
    simp [behind, advance, Nat.add_assoc]
  · simp [behind, advance, breaks, Nat.add_comm]

/-- **The place that is counted character by character** is the one behind the text. -/
theorem after_eq_behind (text : List Char) : after text = behind text := by
  induction text using List.reverseRecOn with
  | nil => rfl
  | append_singleton text c ih =>
    rw [behind_concat, ← ih, after, List.foldl_append]
    rfl

end Position

/-- A state of the parser on a text: what it has read, what remains, and the place that it has
counted. -/
structure Cursor (text : List Char) where
  read : List Char
  rest : List Char
  place : Position
  append_eq : read ++ rest = text
  place_eq : place = .behind read

variable {α β : Type} {text : List Char}

namespace Cursor

/-- The state in front of a text. -/
def start (text : List Char) : Cursor text :=
  ⟨[], text, .start, rfl, rfl⟩

/-- The state behind the next character. -/
def bump (cursor : Cursor text) {c : Char} {rest : List Char} (ahead : cursor.rest = c :: rest) :
    Cursor text where
  read := cursor.read ++ [c]
  rest := rest
  place := cursor.place.advance c
  append_eq := by rw [List.append_assoc, List.singleton_append, ← ahead, cursor.append_eq]
  place_eq := by rw [Position.behind_concat, cursor.place_eq]

/-- The state behind some characters. -/
def pass : (front : List Char) → {rest : List Char} → (cursor : Cursor text) →
    cursor.rest = front ++ rest → Cursor text
  | [], _, cursor, _ => cursor
  | _ :: front, _, cursor, ahead => (cursor.bump ahead).pass front rfl

theorem rest_pass (front : List Char) {rest : List Char} (cursor : Cursor text)
    (ahead : cursor.rest = front ++ rest) : (cursor.pass front ahead).rest = rest := by
  induction front generalizing cursor with
  | nil => exact ahead
  | cons c front ih => exact ih _ _

/-- The state in which a given rest remains. -/
def moveTo (cursor : Cursor text) (rest : List Char) (inside : rest <:+ cursor.rest) :
    Cursor text :=
  cursor.pass _ (List.suffix_iff_eq_append.mp inside).symm

@[simp] theorem rest_moveTo (cursor : Cursor text) {rest : List Char}
    (inside : rest <:+ cursor.rest) : (cursor.moveTo rest inside).rest = rest :=
  rest_pass _ _ _

/-- The state behind white space and comments. -/
def skipTrivia (cursor : Cursor text) : Cursor text :=
  cursor.moveTo (afterTrivia cursor.rest) (afterTrivia_suffix _)

@[simp] theorem rest_skipTrivia (cursor : Cursor text) :
    cursor.skipTrivia.rest = afterTrivia cursor.rest :=
  rest_moveTo _ _

theorem skipTrivia_le (cursor : Cursor text) :
    cursor.skipTrivia.rest.length ≤ cursor.rest.length := by
  rw [rest_skipTrivia]
  exact (afterTrivia_suffix _).length_le

/-- A refusal at the place of a state. -/
def refuse (cursor : Cursor text) (cause : Cause) : ParseError :=
  ⟨cursor.place, cause⟩

end Cursor

/-! ### Passages -/

/-- A piece read in a state, and the state behind it, in which less remains. -/
structure Passage (α : Type) (cursor : Cursor text) where
  value : α
  next : Cursor text
  shorter : next.rest.length < cursor.rest.length

namespace Passage

variable {cursor : Cursor text}

/-- The passage with its value changed. -/
def map (f : α → β) (passage : Passage α cursor) : Passage β cursor :=
  { passage with value := f passage.value }

/-- A passage from a later state as a passage from an earlier one. -/
def widen {later : Cursor text} (passage : Passage α later)
    (fewer : later.rest.length < cursor.rest.length) : Passage α cursor :=
  ⟨passage.value, passage.next, Nat.lt_trans passage.shorter fewer⟩

/-- A passage behind trivia as a passage over both. -/
def overTrivia (passage : Passage α cursor.skipTrivia) : Passage α cursor :=
  ⟨passage.value, passage.next, Nat.lt_of_lt_of_le passage.shorter cursor.skipTrivia_le⟩

/-- The passage and the trivia behind it. -/
def skipTrivia (passage : Passage α cursor) : Passage α cursor :=
  ⟨passage.value, passage.next.skipTrivia,
    Nat.lt_of_le_of_lt passage.next.skipTrivia_le passage.shorter⟩

end Passage

/-- A reader that keeps its place. -/
abbrev Tracker (α : Type) :=
  ⦃text : List Char⦄ → (cursor : Cursor text) → Except ParseError (Passage α cursor)

/-- A result in the text in front of a state, taken over as that of a reader that keeps its place:
it passes over what was read and is refused where the fault is. -/
def Cursor.carry (cursor : Cursor text) (result : Except Fault (Step α cursor.rest))
    (refuses : RefusesIn cursor.rest result) : Except ParseError (Passage α cursor) :=
  match result, refuses with
  | .ok step, _ => .ok ⟨step.value, cursor.moveTo step.rest step.suffix, by
      rw [rest_moveTo]
      exact step.shorter⟩
  | .error fault, refuses =>
    .error ((cursor.moveTo fault.rest (refuses fault rfl)).refuse fault.cause)

/-- A reader without parts, which keeps its place. -/
def Parser.track (reader : Parser α) (careful : Careful reader) : Tracker α := fun _ cursor =>
  cursor.carry (reader cursor.rest) (careful cursor.rest)

namespace Cursor

/-- The next character. -/
def next? (cursor : Cursor text) : Option (Passage Char cursor) :=
  match ahead : cursor.rest with
  | [] => none
  | c :: rest => some ⟨c, cursor.bump ahead, by
      rw [ahead]
      exact Nat.lt_succ_self rest.length⟩

theorem next?_eq_none_iff {cursor : Cursor text} : cursor.next? = none ↔ cursor.rest = [] := by
  unfold next?
  split
  · next ends => exact ⟨fun _ => ends, fun _ => rfl⟩
  · next ahead =>
    constructor
    · intro none
      cases none
    · intro ends
      cases ahead.symm.trans ends

theorem next?_eq_some {cursor : Cursor text} {c : Char} {rest : List Char}
    (ahead : cursor.rest = c :: rest) :
    ∃ passage, cursor.next? = some passage ∧ passage.value = c ∧ passage.next.rest = rest := by
  unfold next?
  split
  · next ends => cases ends.symm.trans ahead
  · next d more is =>
    obtain ⟨rfl, rfl⟩ := List.cons.inj (is.symm.trans ahead)
    exact ⟨_, rfl, rfl, rfl⟩

theorem rest_of_next? {cursor : Cursor text} {c : Passage Char cursor}
    (next : cursor.next? = some c) : cursor.rest = c.value :: c.next.rest := by
  cases remains : cursor.rest with
  | nil => cases (next?_eq_none_iff.mpr remains).symm.trans next
  | cons d rest =>
    obtain ⟨passage, is, rfl, rfl⟩ := next?_eq_some remains
    obtain rfl := Option.some.inj (is.symm.trans next)
    rfl

/-- The characters of a string and its closing quote, behind the quote at the state `opening`. -/
def stringBody (opening : Cursor text) (quote : Char) (cursor : Cursor text) :
    Except ParseError (Passage (List Char) cursor) :=
  match cursor.next? with
  | none => .error (opening.refuse .unterminatedString)
  | some c =>
    have := c.shorter
    if c.value = quote then .ok (c.map fun _ => [])
    else if c.value = '\n' then .error (opening.refuse .unterminatedString)
    else if c.value = '\\' then do
      let escaped ← Parser.track escape careful_escape c.next
      have := escaped.shorter
      let body ← stringBody opening quote escaped.next
      return ((body.map (escaped.value ++ ·)).widen escaped.shorter).widen c.shorter
    else do
      let body ← stringBody opening quote c.next
      return (body.map (c.value :: ·)).widen c.shorter
  termination_by cursor.rest.length

/-- The string in front of a state, joined with the strings that follow it; where none follows
trivia, the parser goes back to where it was saved. -/
def strings (cursor : Cursor text) : Except ParseError (Passage (List Char) cursor) :=
  match cursor.next? with
  | none => .error (cursor.refuse .unterminatedString)
  | some quote => do
    let first ← stringBody cursor quote.value quote.next
    let saved := first.widen quote.shorter
    let ahead := saved.skipTrivia
    have := ahead.shorter
    if ahead.next.rest.head?.any isQuote then
      let others ← strings ahead.next
      return (others.map (saved.value ++ ·)).widen ahead.shorter
    else
      return saved
  termination_by cursor.rest.length
  decreasing_by exact ahead.shorter

/-- What stands behind an item: whether it is a comma, and not the closing bracket. -/
def separator (close : Char) (unterminated : Cause) : Tracker Bool := fun _ cursor =>
  match cursor.next? with
  | none => .error (cursor.refuse unterminated)
  | some c =>
    if c.value = ',' then .ok (c.map fun _ => true)
    else if c.value = close then .ok (c.map fun _ => false)
    else .error (cursor.refuse (.expectedSeparator close c.value))

/-- Items with commas between them up to a closing bracket, and whether a comma stands in front of
the bracket; `comma` tells whether one stands in front of the state. -/
def items (item : Tracker α) (close : Char) (unterminated : Cause) (comma : Bool)
    (cursor : Cursor text) : Except ParseError (Passage (List α × Bool) cursor) :=
  match cursor.skipTrivia.next?.filter (·.value = close) with
  | some bracket => .ok (bracket.map fun _ => ([], comma)).overTrivia
  | none => do
    let first := (← item cursor.skipTrivia).skipTrivia
    let parted := (← separator close unterminated first.next).widen first.shorter
    if parted.value then
      have := parted.overTrivia.shorter
      let others ← items item close unterminated true parted.next
      let all := others.map fun (values, last) => (first.value :: values, last)
      return (all.widen parted.shorter).overTrivia
    else
      return (parted.map fun _ => ([first.value], false)).overTrivia
  termination_by cursor.rest.length

/-- The key in front of a state. -/
def key : Tracker Key := fun _ cursor =>
  match cursor.next? with
  | none => .error (cursor.refuse .unterminatedMapping)
  | some c =>
    if isQuote c.value then do
      let text ← strings cursor
      return text.map fun value => .string (String.ofList value)
    else if c.value = '-' || c.value = '+' || c.value.isDigit then do
      let number ← Parser.track number careful_number cursor
      match number.value with
      | .int value => return number.map fun _ => .int value
      | .float _ => .error (cursor.refuse .keyNotStringOrInteger)
    else .error (cursor.refuse (.unexpectedKey c.value))

/-- The entry in front of a state: a key, a colon and a value. -/
def entry (value : Tracker Value) : Tracker (Key × Value) := fun _ cursor => do
  let key := (← key cursor).skipTrivia
  match key.next.next? with
  | none => .error (key.next.refuse (.expectedColon none))
  | some c =>
    if c.value = ':' then
      let value ← value c.skipTrivia.next
      return ((value.map (key.value, ·)).widen c.skipTrivia.shorter).widen key.shorter
    else .error (key.next.refuse (.expectedColon (some c.value)))

/-- What a container holds, behind its opening bracket. -/
def container (item : Tracker α) (close : Char) (unterminated : Cause)
    (make : List α × Bool → Except Cause Value) : Tracker Value := fun _ cursor =>
  match cursor.next? with
  | none => .error (cursor.refuse .unexpectedEnd)
  | some opening => do
    let contents ← items item close unterminated false opening.next
    match make contents.value with
    | .error cause => .error (cursor.refuse cause)
    | .ok value => return (contents.map fun _ => value).widen opening.shorter

/-- A literal that is no container. -/
def scalar : Tracker Value := fun _ cursor =>
  if cursor.rest.head?.any isQuote then do
    let text ← strings cursor
    return text.map fun value => .string (String.ofList value)
  else Parser.track Literal.scalar careful_scalar cursor

/-- The literal in front of a state, with at most `levels` containers inside one another. -/
def value : (levels : Nat) → Tracker Value
  | 0, _, cursor =>
    if cursor.rest.head?.any (· ∈ openingBrackets) then .error (cursor.refuse .tooDeep)
    else scalar cursor
  | levels + 1, _, cursor =>
    match cursor.rest.head? with
    | some '\x7b' =>
      container (entry (value levels)) '\x7d' .unterminatedMapping
        (fun entries => mappingValue entries.1) cursor
    | some '[' =>
      container (value levels) ']' .unterminatedSequence (fun items => .ok (.list items.1)) cursor
    | some '(' =>
      container (value levels) ')' .unterminatedSequence (fun items => .ok (tupleValue items))
        cursor
    | _ => scalar cursor

end Cursor

/-- The literal that a text consists of, up to white space and comments. -/
def trackDocument (text : List Char) : Except ParseError Value := do
  let passage ← (Cursor.start text).skipTrivia.value nestingLimit
  let behind := passage.next.skipTrivia
  match behind.next? with
  | none => return passage.value
  | some c => .error (behind.refuse (.trailingContent c.value))

end DumpDigest.Literal
