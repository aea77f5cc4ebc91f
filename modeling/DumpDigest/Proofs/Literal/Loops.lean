import DumpDigest.Literal.Parse
import DumpDigest.Proofs.Literal.Scalar
import DumpDigest.Proofs.Result

/-!
# The parser with its loops

The parser reads on by recursion, and its types promise that each time less remains.  Here it reads
on in loops, of which nothing is promised: over the characters of a string, over strings next to one
another, and over the items of a container.  A loop goes through rounds until one of them leaves it,
and it is given up after some number of rounds, so that one that does not come to an end shows.

What the loops owe to their rounds is progress.  Every round reads something (`behind_of_…Round`),
so a loop leaves less than it found (`behind_of_loop`), and so does every reader made with it
(`Advances`).  This holds whatever the number of rounds is.

The loop over strings looks for the next string behind trivia and goes back if there is none.  Its
state is the place behind the last string, and this is where it is left
(`joined_of_scanStrings`).
-/

namespace DumpDigest.Literal

open Text (Step)
open Result

variable {α : Type}

/-! ### Loops -/

/-- Why a scanner stops: the text has a fault, or a loop was not left within its rounds. -/
inductive Stop where
  | fault (fault : Fault)
  | rounds

/-- A reader that promises nothing of what remains. -/
abbrev Scanner (α : Type) := List Char → Except Stop (α × List Char)

/-- How a round ends: the loop goes on in a state, or it is left in one. -/
inductive Round (σ : Type) where
  | again (state : σ)
  | leave (state : σ)

namespace Round

variable {σ : Type}

/-- The state behind a round. -/
def state : Round σ → σ
  | again state => state
  | leave state => state

/-- What follows a round. -/
def proceed (further : σ → Except Stop σ) : Round σ → Except Stop σ
  | again state => further state
  | leave state => .ok state

end Round

/-- The state in which a loop is left, if it is within some number of rounds. -/
def loop {σ : Type} (round : σ → Except Stop (Round σ)) : (limit : Nat) → σ → Except Stop σ
  | 0, _ => .error .rounds
  | limit + 1, state => round state >>= Round.proceed (loop round limit)

/-- What a loop keeps in its rounds leads to what it has when it is left. -/
theorem loop_left {σ : Type} {round : σ → Except Stop (Round σ)} (Keeps Has : σ → Prop)
    (again : ∀ state next, Keeps state → round state = .ok (.again next) → Keeps next)
    (leave : ∀ state last, Keeps state → round state = .ok (.leave last) → Has last)
    {limit : Nat} {state last : σ} (start : Keeps state)
    (left : loop round limit state = .ok last) : Has last := by
  induction limit generalizing state with
  | zero => cases left
  | succ limit ih =>
    rw [loop] at left
    obtain ⟨result, went, further⟩ := bind_eq_ok_iff.mp left
    cases result with
    | again next => exact ih (again state next start went) further
    | leave other =>
      obtain rfl := Except.ok.inj further
      exact leave state other start went

/-! ### Progress -/

/-- A rest is what remains of a text behind something that has been read. -/
def Behind (rest text : List Char) : Prop :=
  rest <:+ text ∧ rest.length < text.length

theorem Behind.widen {rest inner text : List Char} (behind : Behind rest inner)
    (inside : inner <:+ text) : Behind rest text :=
  ⟨behind.1.trans inside, Nat.lt_of_lt_of_le behind.2 inside.length_le⟩

theorem Behind.of_suffix {rest inner text : List Char} (inside : rest <:+ inner)
    (behind : Behind inner text) : Behind rest text :=
  ⟨inside.trans behind.1, Nat.lt_of_le_of_lt inside.length_le behind.2⟩

theorem behind_cons {c : Char} {rest text : List Char} (inside : rest <:+ text) :
    Behind rest (c :: text) :=
  ⟨inside.trans (List.suffix_cons c text), Nat.lt_succ_of_le inside.length_le⟩

/-- A scanner that reads something reads at least one character. -/
def Advances (scan : Scanner α) : Prop :=
  ∀ ⦃text value rest⦄, scan text = .ok (value, rest) → Behind rest text

/-- **A loop whose rounds read something reads something.** -/
theorem behind_of_loop {γ : Type} {round : γ × List Char → Except Stop (Round (γ × List Char))}
    (moves : ∀ state result, round state = .ok result → Behind result.state.2 state.2)
    {limit : Nat} {state last : γ × List Char} (left : loop round limit state = .ok last) :
    Behind last.2 state.2 := by
  refine loop_left (fun reached => reached.2 <:+ state.2) (fun reached => Behind reached.2 state.2)
    ?_ ?_ List.suffix_rfl left
  · intro reached next inside went
    exact (moves reached _ went).1.trans inside
  · intro reached next inside went
    exact (moves reached _ went).widen inside

/-! ### Readers without loops -/

/-- What a reader comes to, without its promises. -/
def scanned {text : List Char} : Except Fault (Step α text) → Except Stop (α × List Char)
  | .ok step => .ok (step.value, step.rest)
  | .error fault => .error (.fault fault)

@[simp] theorem scanned_ok {text : List Char} (step : Step α text) :
    scanned (.ok step) = .ok (step.value, step.rest) := rfl

theorem behind_of_scanned {text rest : List Char} {result : Except Fault (Step α text)} {value : α}
    (read : scanned result = .ok (value, rest)) : Behind rest text := by
  cases result with
  | error fault => cases read
  | ok step =>
    obtain ⟨-, rfl⟩ := Prod.mk.inj (Except.ok.inj read)
    exact ⟨step.suffix, step.shorter⟩

/-- A reader as a scanner. -/
def Parser.scan (reader : Parser α) : Scanner α := fun text =>
  scanned (reader text)

theorem advances_scan (reader : Parser α) : Advances reader.scan := by
  intro text value rest read
  exact behind_of_scanned read

/-- The word in front of a text. -/
def scanWord : Scanner Value
  | [] => .error (.fault ⟨.unknownWord "", []⟩)
  | c :: rest => scanned (word c rest)

theorem advances_scanWord : Advances scanWord := by
  intro text value rest read
  cases text with
  | nil => cases read
  | cons c behind => exact behind_of_scanned read

/-! ### Strings -/

/-- A round over the characters of a string, which knows what they stand for so far and what
remains. -/
def characterRound (start : List Char) (quote : Char) :
    List Char × List Char → Except Stop (Round (List Char × List Char))
  | (_, []) => .error (.fault ⟨.unterminatedString, start⟩)
  | (found, c :: rest) =>
    if c = quote then .ok (.leave (found, rest))
    else if c = '\n' then .error (.fault ⟨.unterminatedString, start⟩)
    else if c = '\\' then do
      let escaped ← Parser.scan escape rest
      return .again (found ++ escaped.1, escaped.2)
    else .ok (.again (found ++ [c], rest))

/-- The string in front of a text, which begins with its quote. -/
def scanString (limit : Nat) : Scanner (List Char)
  | [] => .error (.fault ⟨.unterminatedString, []⟩)
  | quote :: body => loop (characterRound (quote :: body) quote) limit ([], body)

/-- A round over strings next to one another.  It knows what they stand for so far and the place
behind the last one, and goes back to this place if behind trivia there is no other string. -/
def stringRound (limit : Nat) :
    List Char × List Char → Except Stop (Round (List Char × List Char))
  | (found, saved) =>
    if (afterTrivia saved).head?.any isQuote then do
      let another ← scanString limit (afterTrivia saved)
      return .again (found ++ another.1, another.2)
    else .ok (.leave (found, saved))

/-- The strings in front of a text, joined. -/
def scanStrings (limit : Nat) : Scanner (List Char) := fun text =>
  scanString limit text >>= loop (stringRound limit) limit

theorem behind_of_characterRound {start : List Char} {quote : Char}
    {state : List Char × List Char} {result : Round (List Char × List Char)}
    (went : characterRound start quote state = .ok result) : Behind result.state.2 state.2 := by
  obtain ⟨found, text⟩ := state
  cases text with
  | nil => cases went
  | cons c rest =>
    rw [characterRound] at went
    split at went
    · obtain rfl := Except.ok.inj went
      exact behind_cons List.suffix_rfl
    split at went
    · cases went
    split at went
    · obtain ⟨escaped, read, further⟩ := bind_eq_ok_iff.mp went
      obtain rfl := Except.ok.inj further
      exact behind_cons (advances_scan escape read).1
    · obtain rfl := Except.ok.inj went
      exact behind_cons List.suffix_rfl

theorem advances_scanString (limit : Nat) : Advances (scanString limit) := by
  intro text value rest read
  cases text with
  | nil => cases read
  | cons quote body =>
    rw [scanString] at read
    have behind := behind_of_loop (fun _ _ => behind_of_characterRound) read
    exact behind.widen (List.suffix_cons quote body)

/-- A round over strings goes on behind another string, or the loop is left where it was. -/
theorem stringRound_eq_again {limit : Nat} {state next : List Char × List Char}
    (went : stringRound limit state = .ok (.again next)) :
    (afterTrivia state.2).head?.any isQuote = true ∧
      ∃ more, scanString limit (afterTrivia state.2) = .ok (more, next.2) ∧
        next.1 = state.1 ++ more := by
  obtain ⟨found, saved⟩ := state
  rw [stringRound] at went
  split at went
  · next another =>
    obtain ⟨⟨more, behind⟩, read, further⟩ := bind_eq_ok_iff.mp went
    obtain rfl := Round.again.inj (Except.ok.inj further)
    exact ⟨another, more, read, rfl⟩
  · cases Except.ok.inj went

theorem stringRound_eq_leave {limit : Nat} {state last : List Char × List Char}
    (went : stringRound limit state = .ok (.leave last)) :
    (afterTrivia state.2).head?.any isQuote = false ∧ last = state := by
  obtain ⟨found, saved⟩ := state
  rw [stringRound] at went
  split at went
  · obtain ⟨another, read, further⟩ := bind_eq_ok_iff.mp went
    cases Except.ok.inj further
  · next noOther =>
    exact ⟨Bool.eq_false_iff.mpr noOther, (Round.leave.inj (Except.ok.inj went)).symm⟩

theorem behind_of_stringRound {limit : Nat} {state next : List Char × List Char}
    (went : stringRound limit state = .ok (.again next)) : Behind next.2 state.2 := by
  obtain ⟨-, more, read, -⟩ := stringRound_eq_again went
  exact (advances_scanString limit read).widen (afterTrivia_suffix state.2)

/-- The strings in front of a text up to the one in front of `last`, which ends in front of
`rest`. -/
inductive Joined (limit : Nat) (text : List Char) : (chars last rest : List Char) → Prop where
  | first {chars rest : List Char} (read : scanString limit text = .ok (chars, rest)) :
      Joined limit text chars text rest
  | another {chars last between more rest : List Char}
      (front : Joined limit text chars last between)
      (opens : (afterTrivia between).head?.any isQuote = true)
      (read : scanString limit (afterTrivia between) = .ok (more, rest)) :
      Joined limit text (chars ++ more) (afterTrivia between) rest

theorem Joined.suffix_and_behind {limit : Nat} {text chars last rest : List Char}
    (joined : Joined limit text chars last rest) : last <:+ text ∧ Behind rest last := by
  induction joined with
  | first read => exact ⟨List.suffix_rfl, advances_scanString limit read⟩
  | another front opens read ih =>
    exact ⟨((afterTrivia_suffix _).trans ih.2.1).trans ih.1, advances_scanString limit read⟩

/-- **The loop over strings is left behind the last string**, whatever trivia follows there and
however many strings there are. -/
theorem joined_of_scanStrings {limit : Nat} {text chars rest : List Char}
    (read : scanStrings limit text = .ok (chars, rest)) :
    (∃ last, Joined limit text chars last rest) ∧
      (afterTrivia rest).head?.any isQuote = false := by
  obtain ⟨state, first, left⟩ := bind_eq_ok_iff.mp read
  refine loop_left (fun state => ∃ last, Joined limit text state.1 last state.2)
    (fun state => (∃ last, Joined limit text state.1 last state.2) ∧
      (afterTrivia state.2).head?.any isQuote = false) ?_ ?_ ?_ left
  · rintro state ⟨_, rest⟩ ⟨last, front⟩ went
    obtain ⟨opens, more, another, rfl⟩ := stringRound_eq_again went
    exact ⟨_, front.another opens another⟩
  · rintro state other front went
    obtain ⟨noOther, rfl⟩ := stringRound_eq_leave went
    exact ⟨front, noOther⟩
  · exact ⟨text, .first first⟩

theorem advances_scanStrings (limit : Nat) : Advances (scanStrings limit) := by
  intro text chars rest read
  obtain ⟨⟨last, joined⟩, -⟩ := joined_of_scanStrings read
  obtain ⟨inside, behind⟩ := joined.suffix_and_behind
  exact behind.widen inside

/-! ### Containers -/

/-- A round over the items of a container, which knows the items so far, whether a comma stands
behind the last of them, and what remains. -/
def itemRound (item : Scanner α) (close : Char) (unterminated : Cause) :
    (List α × Bool) × List Char → Except Stop (Round ((List α × Bool) × List Char))
  | ((found, comma), text) =>
    if (afterTrivia text).head? = some close then
      .ok (.leave ((found, comma), (afterTrivia text).tail))
    else do
      let first ← item (afterTrivia text)
      match afterTrivia first.2 with
      | [] => .error (.fault ⟨unterminated, []⟩)
      | c :: rest =>
        if c = ',' then .ok (.again ((found ++ [first.1], true), rest))
        else if c = close then .ok (.leave ((found ++ [first.1], false), rest))
        else .error (.fault ⟨.expectedSeparator close c, c :: rest⟩)

/-- The items behind an opening bracket. -/
def scanItems (limit : Nat) (item : Scanner α) (close : Char) (unterminated : Cause) :
    Scanner (List α × Bool) := fun text =>
  loop (itemRound item close unterminated) limit (([], false), text)

/-- The strings in front of a text, or else what a reader without loops reads there. -/
def scanStringsOr (limit : Nat) (make : String → α) (other : Parser α) : Scanner α := fun text =>
  if text.head?.any isQuote then do
    let strings ← scanStrings limit text
    return (make (String.ofList strings.1), strings.2)
  else other.scan text

/-- The key in front of a text. -/
def scanKey (limit : Nat) : Scanner Key :=
  scanStringsOr limit Key.string key

/-- The entry in front of a text. -/
def scanEntry (limit : Nat) (value : Scanner Value) : Scanner (Key × Value) := fun text => do
  let key ← scanKey limit text
  match afterTrivia key.2 with
  | ':' :: behind => do
    let held ← value (afterTrivia behind)
    return ((key.1, held.1), held.2)
  | rest => .error (.fault ⟨.expectedColon rest.head?, rest⟩)

/-- The container behind its opening bracket. -/
def scanContainer (limit : Nat) (item : Scanner α) (close : Char) (unterminated : Cause)
    (make : List α × Bool → Except Cause Value) (opening : Char) (body : List Char) :
    Except Stop (Value × List Char) := do
  let contents ← scanItems limit item close unterminated body
  match make contents.1 with
  | .error cause => .error (.fault ⟨cause, opening :: body⟩)
  | .ok value => return (value, contents.2)

/-- The literal in front of a text, if it is no container. -/
def scanScalar (limit : Nat) : Scanner Value :=
  scanStringsOr limit Value.string scalar

/-- The literal in front of a text, where containers hold what the inner scanner reads. -/
def scanLiteral (limit : Nat) (inner : Scanner Value) : Scanner Value
  | '\x7b' :: body =>
    scanContainer limit (scanEntry limit inner) '\x7d' .unterminatedMapping
      (fun entries => mappingValue entries.1) '\x7b' body
  | '[' :: body =>
    scanContainer limit inner ']' .unterminatedSequence (fun items => .ok (.list items.1)) '[' body
  | '(' :: body =>
    scanContainer limit inner ')' .unterminatedSequence (fun items => .ok (tupleValue items)) '('
      body
  | text => scanScalar limit text

/-- The literal in front of a text, with at most `levels` containers inside one another. -/
def scanValue (limit : Nat) : (levels : Nat) → Scanner Value
  | 0, text =>
    if text.head?.any (· ∈ openingBrackets) then .error (.fault ⟨.tooDeep, text⟩)
    else scanScalar limit text
  | levels + 1, text => scanLiteral limit (scanValue limit levels) text

/-- The literal that a text consists of, up to white space and comments. -/
def scanDocument (limit : Nat) (text : List Char) : Except Stop Value := do
  let found ← scanValue limit nestingLimit (afterTrivia text)
  match afterTrivia found.2 with
  | [] => return found.1
  | c :: rest => .error (.fault ⟨.trailingContent c, c :: rest⟩)

theorem behind_of_itemRound {item : Scanner α} (advances : Advances item) {close : Char}
    {unterminated : Cause} {state : (List α × Bool) × List Char}
    {result : Round ((List α × Bool) × List Char)}
    (went : itemRound item close unterminated state = .ok result) :
    Behind result.state.2 state.2 := by
  obtain ⟨⟨found, comma⟩, text⟩ := state
  have inside := afterTrivia_suffix text
  rw [itemRound] at went
  split at went
  · next closes =>
    obtain rfl := Except.ok.inj went
    obtain ⟨rest, is⟩ := List.head?_eq_some_iff.mp closes
    have behind : Behind rest (afterTrivia text) := is ▸ behind_cons List.suffix_rfl
    have tail : (afterTrivia text).tail = rest := by rw [is, List.tail_cons]
    exact (tail ▸ behind).widen inside
  · obtain ⟨⟨value, behind⟩, read, further⟩ := bind_eq_ok_iff.mp went
    have shorter := (advances read).widen inside
    dsimp only at further
    split at further
    · cases further
    · next c rest separates =>
      have onward : rest <:+ behind :=
        (List.suffix_cons c rest).trans (suffix_of_afterTrivia separates)
      split at further
      · obtain rfl := Except.ok.inj further
        exact shorter.of_suffix onward
      split at further
      · obtain rfl := Except.ok.inj further
        exact shorter.of_suffix onward
      · cases further

theorem advances_scanItems {item : Scanner α} (advances : Advances item) (limit : Nat)
    (close : Char) (unterminated : Cause) :
    Advances (scanItems limit item close unterminated) := by
  intro text contents rest read
  exact behind_of_loop (fun _ _ => behind_of_itemRound advances) read

theorem advances_scanStringsOr (limit : Nat) (make : String → α) (other : Parser α) :
    Advances (scanStringsOr limit make other) := by
  intro text found rest read
  rw [scanStringsOr] at read
  split at read
  · obtain ⟨⟨chars, behind⟩, strings, further⟩ := bind_eq_ok_iff.mp read
    obtain ⟨-, rfl⟩ := Prod.mk.inj (Except.ok.inj further)
    exact advances_scanStrings limit strings
  · exact advances_scan other read

theorem advances_scanKey (limit : Nat) : Advances (scanKey limit) :=
  advances_scanStringsOr limit Key.string key

theorem advances_scanEntry {value : Scanner Value} (advances : Advances value) (limit : Nat) :
    Advances (scanEntry limit value) := by
  intro text found rest read
  rw [scanEntry] at read
  obtain ⟨⟨key, behindKey⟩, keyRead, further⟩ := bind_eq_ok_iff.mp read
  have shorter := advances_scanKey limit keyRead
  dsimp only at further
  split at further
  · next behind colon =>
    obtain ⟨⟨held, behindHeld⟩, heldRead, last⟩ := bind_eq_ok_iff.mp further
    obtain ⟨-, rfl⟩ := Prod.mk.inj (Except.ok.inj last)
    have onward : afterTrivia behind <:+ behindKey :=
      ((afterTrivia_suffix behind).trans (List.suffix_cons ':' behind)).trans
        (suffix_of_afterTrivia colon)
    exact shorter.of_suffix ((advances heldRead).1.trans onward)
  · cases further

theorem behind_of_scanContainer {item : Scanner α} (advances : Advances item) {limit : Nat}
    {close : Char} {unterminated : Cause} {make : List α × Bool → Except Cause Value}
    {opening : Char} {body : List Char} {value : Value} {rest : List Char}
    (read : scanContainer limit item close unterminated make opening body = .ok (value, rest)) :
    Behind rest (opening :: body) := by
  obtain ⟨⟨contents, behind⟩, items, further⟩ := bind_eq_ok_iff.mp read
  have shorter := advances_scanItems advances limit close unterminated items
  dsimp only at further
  split at further
  · cases further
  · obtain ⟨-, rfl⟩ := Prod.mk.inj (Except.ok.inj further)
    exact shorter.widen (List.suffix_cons opening body)

theorem advances_scanScalar (limit : Nat) : Advances (scanScalar limit) :=
  advances_scanStringsOr limit Value.string scalar

theorem advances_scanLiteral {inner : Scanner Value} (advances : Advances inner) (limit : Nat) :
    Advances (scanLiteral limit inner) := by
  intro text found rest read
  unfold scanLiteral at read
  split at read
  · exact behind_of_scanContainer (advances_scanEntry advances limit) read
  · exact behind_of_scanContainer advances read
  · exact behind_of_scanContainer advances read
  · exact advances_scanScalar limit read

/-- **Whatever is read as a literal takes something from the text**, by induction on the levels of
containers. -/
theorem advances_scanValue (limit levels : Nat) : Advances (scanValue limit levels) := by
  induction levels with
  | zero =>
    intro text found rest read
    rw [scanValue] at read
    split at read
    · cases read
    · exact advances_scanScalar limit read
  | succ levels ih =>
    intro text found rest read
    rw [scanValue] at read
    exact advances_scanLiteral ih limit read

end DumpDigest.Literal
