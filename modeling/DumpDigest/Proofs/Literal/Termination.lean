import DumpDigest.Proofs.Literal.Acceptance
import DumpDigest.Proofs.Literal.Loops

/-!
# The parser makes progress and comes to an end

`Loops.lean` writes the parser with loops that nothing but a number of rounds keeps from going on
for ever.  Since each round reads something, a loop is left by itself if it may go through more
rounds than there are characters (`loop_eq`), and what it comes to is what the parser reads by
recursion: for each loop there is one lemma `…Round_proceeds`, which says that the reading by
recursion goes on as the round does.  From the characters of a string up to a document, the two
parsers then read the same (`scan…_eq` and `agrees_scan…`).

`parser_progresses` puts this next to the progress at every place of a text, which `Progress`
lists.  A place is a number of characters from the beginning of the text, and a scanner there sees
what is left when they are dropped.
-/

namespace DumpDigest.Literal

open Text (Step)
open Result

variable {α β : Type} {limit : Nat}

/-! ### Loops come to an end -/

/-- **A loop that makes progress is left**: if every round leaves less than there was, a loop has
enough rounds if there are more of them than there is to begin with, and it comes to whatever keeps
to its rounds. -/
theorem loop_eq {σ : Type} {round : σ → Except Stop (Round σ)} (remains : σ → Nat)
    (result : σ → Except Stop σ) {bound : Nat}
    (shrinks : ∀ state next, round state = .ok (.again next) → remains next < remains state)
    (unfolds : ∀ state, remains state < bound →
      result state = round state >>= Round.proceed result)
    {state : σ} (enough : remains state < limit) (within : remains state < bound) :
    loop round limit state = result state := by
  induction limit generalizing state with
  | zero => omega
  | succ limit ih =>
    rw [loop, unfolds state within]
    cases went : round state with
    | error stop => rfl
    | ok turn =>
      cases turn with
      | again next =>
        have shorter := shrinks state next went
        exact ih (by omega) (by omega)
      | leave last => rfl

theorem length_afterTrivia_lt {text : List Char} (enough : text.length < limit) :
    (afterTrivia text).length < limit :=
  Nat.lt_of_le_of_lt (afterTrivia_suffix text).length_le enough

/-- What a scanner comes to, with its value changed. -/
def changed (f : α → β) (result : Except Stop (α × List Char)) : Except Stop (β × List Char) :=
  (fun read => (f read.1, read.2)) <$> result

theorem changed_changed {γ : Type} (f : α → β) (g : β → γ) (result : Except Stop (α × List Char)) :
    changed g (changed f result) = changed (g ∘ f) result := by
  cases result <;> rfl

/-- What is read in front of the rest of a piece may be put there sooner or later. -/
theorem changed_append (first second : List α) (result : Except Stop (List α × List Char)) :
    changed (first ++ ·) (changed (second ++ ·) result) =
      changed ((first ++ second) ++ ·) result := by
  simp only [changed_changed, List.append_assoc]
  rfl

theorem changed_nil_append (result : Except Stop (List Char × List Char)) :
    changed ([] ++ ·) result = result := by
  cases result <;> rfl

theorem scanned_change {inner text : List Char} {result : Except Fault (Step α inner)}
    {change : Step α inner → Step β text} {f : α → β}
    (values : ∀ step, (change step).value = f step.value)
    (rests : ∀ step, (change step).rest = step.rest) :
    scanned (result >>= fun step => pure (change step)) = changed f (scanned result) := by
  cases result with
  | error fault => rfl
  | ok step =>
    show Except.ok ((change step).value, (change step).rest) = Except.ok (f step.value, step.rest)
    rw [values, rests]

/-! ### Strings -/

/-- Round by round a string is read as by recursion. -/
theorem characterRound_proceeds (start : List Char) (quote : Char) (found text : List Char) :
    changed (found ++ ·) (scanned (stringBody start quote text)) =
      characterRound start quote (found, text) >>= Round.proceed fun state =>
        changed (state.1 ++ ·) (scanned (stringBody start quote state.2)) := by
  cases text with
  | nil =>
    rw [stringBody]
    rfl
  | cons c rest =>
    rw [characterRound, stringBody]
    split
    · show Except.ok (found ++ [], rest) = Except.ok (found, rest)
      rw [List.append_nil]
    split
    · rfl
    split
    · rw [Parser.scan]
      cases escape rest with
      | error fault => rfl
      | ok escaped =>
        simp only [bind, Except.bind]
        show _ = changed ((found ++ escaped.value) ++ ·)
          (scanned (stringBody start quote escaped.rest))
        rw [← changed_append]
        exact congrArg (changed (found ++ ·)) (scanned_change (fun _ => rfl) (fun _ => rfl))
    · show _ = changed ((found ++ [c]) ++ ·) (scanned (stringBody start quote rest))
      rw [← changed_append]
      exact congrArg (changed (found ++ ·)) (scanned_change (fun _ => rfl) (fun _ => rfl))

/-- The string in front of a text, as the parser reads it. -/
def stringAt : Scanner (List Char)
  | [] => .error (.fault ⟨.unterminatedString, []⟩)
  | quote :: body => scanned (stringBody (quote :: body) quote body)

/-- The strings in front of a text, as the parser reads them. -/
def stringsAt : Scanner (List Char)
  | [] => .error (.fault ⟨.unterminatedString, []⟩)
  | quote :: body => scanned (strings quote body)

theorem scanString_eq {text : List Char} (enough : text.length < limit) :
    scanString limit text = stringAt text := by
  cases text with
  | nil => rfl
  | cons quote body =>
    have shorter : body.length < limit := Nat.lt_of_succ_lt enough
    have read : scanString limit (quote :: body) =
        changed ([] ++ ·) (scanned (stringBody (quote :: body) quote body)) :=
      loop_eq (fun state => state.2.length)
        (fun state => changed (state.1 ++ ·) (scanned (stringBody (quote :: body) quote state.2)))
        (fun state next went => (behind_of_characterRound went).2)
        (fun state _ => characterRound_proceeds _ _ state.1 state.2) shorter shorter
    exact read.trans (changed_nil_append _)

/-- What the parser makes of strings behind others, which are joined to them. -/
def stringsBehind (state : List Char × List Char) : Except Stop (List Char × List Char) :=
  if (afterTrivia state.2).head?.any isQuote then
    changed (state.1 ++ ·) (stringsAt (afterTrivia state.2))
  else .ok state

theorem changed_stringsBehind (found more behind : List Char) :
    changed (found ++ ·) (stringsBehind (more, behind)) =
      stringsBehind (found ++ more, behind) := by
  rw [stringsBehind, stringsBehind]
  split
  · exact changed_append found more _
  · rfl

theorem stringsAt_eq (text : List Char) : stringsAt text = stringAt text >>= stringsBehind := by
  cases text with
  | nil => rfl
  | cons quote body =>
    rw [stringsAt, stringAt, strings]
    cases stringBody (quote :: body) quote body with
    | error fault => rfl
    | ok first =>
      show scanned _ = stringsBehind (first.value, first.rest)
      rw [stringsBehind]
      show scanned _ = if (afterTrivia first.rest).head?.any isQuote then
        changed (first.value ++ ·) (stringsAt (afterTrivia first.rest)) else _
      simp only [bind, Except.bind]
      split
      · next ends =>
        simp only [ends]
        rfl
      · next c rest follows =>
        simp only [follows, List.head?_cons, Option.any_some]
        split
        · exact scanned_change (fun _ => rfl) (fun _ => rfl)
        · rfl

theorem stringRound_proceeds {state : List Char × List Char}
    (enough : state.2.length < limit) :
    stringsBehind state = stringRound limit state >>= Round.proceed stringsBehind := by
  obtain ⟨found, saved⟩ := state
  rw [stringsBehind, stringRound]
  by_cases another : (afterTrivia saved).head?.any isQuote = true
  · rw [if_pos another, if_pos another, scanString_eq (length_afterTrivia_lt enough), stringsAt_eq]
    cases stringAt (afterTrivia saved) with
    | error stop => rfl
    | ok read => exact changed_stringsBehind found read.1 read.2
  · rw [if_neg another, if_neg another]
    rfl

theorem scanStrings_eq {text : List Char} (enough : text.length < limit) :
    scanStrings limit text = stringsAt text := by
  rw [scanStrings, stringsAt_eq, ← scanString_eq enough]
  cases first : scanString limit text with
  | error stop => rfl
  | ok state =>
    have shorter : state.2.length < limit :=
      Nat.lt_trans (advances_scanString limit first).2 enough
    exact loop_eq (fun state => state.2.length) stringsBehind
      (fun state next went => (behind_of_stringRound went).2)
      (fun state within => stringRound_proceeds within) shorter shorter

/-! ### Containers -/

/-- What the parser makes of the items behind others. -/
def itemsBehind (item : Parser α) (close : Char) (unterminated : Cause)
    (state : (List α × Bool) × List Char) : Except Stop ((List α × Bool) × List Char) :=
  changed (fun contents => (state.1.1 ++ contents.1, contents.2))
    (scanned (items item close unterminated state.1.2 state.2))

/-- A scanner reads a text as a reader does, if it may go through enough rounds for it. -/
def Agrees (limit : Nat) (scan : Scanner α) (reader : Parser α) : Prop :=
  ∀ ⦃text⦄, text.length < limit → scan text = reader.scan text

theorem itemRound_proceeds {scan : Scanner α} {item : Parser α} (agrees : Agrees limit scan item)
    {close : Char} {unterminated : Cause} {state : (List α × Bool) × List Char}
    (enough : state.2.length < limit) :
    itemsBehind item close unterminated state =
      itemRound scan close unterminated state >>=
        Round.proceed (itemsBehind item close unterminated) := by
  obtain ⟨⟨found, comma⟩, text⟩ := state
  rw [itemsBehind, itemRound, items, agrees (length_afterTrivia_lt enough)]
  split
  · next c rest closes =>
    simp only [closes, List.head?_cons, Option.some.injEq]
    split
    · show Except.ok ((found ++ [], comma), rest) = Except.ok ((found, comma), rest)
      rw [List.append_nil]
    · rw [Parser.scan]
      cases item (c :: rest) with
      | error fault => rfl
      | ok first =>
        simp only [scanned_ok, bind, Except.bind]
        split
        · next ends =>
          simp only [ends]
          rfl
        · next behind separates =>
          simp only [separates, if_true]
          rw [Round.proceed, itemsBehind]
          simp only [List.append_assoc, List.singleton_append]
          refine Eq.trans (congrArg (changed _) ?_) (changed_changed
            (fun contents : List α × Bool => (first.value :: contents.1, contents.2)) _ _)
          exact scanned_change (fun _ => rfl) (fun _ => rfl)
        · next d behind other separates =>
          have noComma : ¬d = ',' := other
          simp only [separates, if_neg noComma]
          split <;> rfl
  · next ends =>
    simp only [ends]
    rw [Parser.scan]
    cases item [] with
    | error fault => rfl
    | ok step => exact absurd step.shorter (Nat.not_lt_zero _)

theorem scanItems_eq {scan : Scanner α} {item : Parser α} (advances : Advances scan)
    (agrees : Agrees limit scan item) (close : Char) (unterminated : Cause) {text : List Char}
    (enough : text.length < limit) :
    scanItems limit scan close unterminated text =
      scanned (items item close unterminated false text) := by
  have read : scanItems limit scan close unterminated text =
      itemsBehind item close unterminated (([], false), text) :=
    loop_eq (fun state => state.2.length) (itemsBehind item close unterminated)
      (fun state next went => (behind_of_itemRound advances went).2)
      (fun state within => itemRound_proceeds agrees within) enough enough
  rw [read, itemsBehind]
  cases items item close unterminated false text <;> rfl

/-! ### Literals -/

/-- A scanner of strings and of what a reader without loops reads agrees with a reader that does
the same with strings. -/
theorem agrees_scanStringsOr {make : String → α} {other : Parser α}
    (makes : ∀ quote body, isQuote quote = true →
      other (quote :: body) = strings quote body >>= fun found =>
        pure (found.map fun chars => make (String.ofList chars))) :
    Agrees limit (scanStringsOr limit make other) other := by
  intro text enough
  rw [scanStringsOr]
  split
  · next opens =>
    cases text with
    | nil => cases opens
    | cons quote body =>
      rw [scanStrings_eq enough, stringsAt, Parser.scan, makes quote body opens]
      cases strings quote body <;> rfl
  · rfl

theorem agrees_scanKey (limit : Nat) : Agrees limit (scanKey limit) key := by
  refine agrees_scanStringsOr ?_
  intro quote body opens
  rw [key, if_pos opens]

theorem agrees_scanScalar (limit : Nat) : Agrees limit (scanScalar limit) scalar := by
  refine agrees_scanStringsOr ?_
  intro quote body opens
  rw [scalar, if_pos opens]

theorem agrees_scanEntry {scan : Scanner Value} {value : Parser Value}
    (agrees : Agrees limit scan value) : Agrees limit (scanEntry limit scan) (entry value) := by
  intro text enough
  rw [scanEntry, agrees_scanKey limit enough, Parser.scan, Parser.scan, entry]
  cases key text with
  | error fault => rfl
  | ok found =>
    simp only [scanned_ok, bind, Except.bind]
    symm
    split
    · next behind colon =>
      have shorter : behind.length < limit :=
        Nat.lt_trans (shorter_of_afterTrivia colon) (Nat.lt_trans found.shorter enough)
      simp only [colon, agrees (length_afterTrivia_lt shorter)]
      rw [Parser.scan]
      cases value (afterTrivia behind) <;> rfl
    · next noColon =>
      split
      · next behind colon => exact absurd colon (noColon behind)
      · rfl

theorem agrees_scanLiteral {levels : Nat} {scan : Scanner Value} (advances : Advances scan)
    (agrees : Agrees limit scan (value levels)) :
    Agrees limit (scanLiteral limit scan) (value (levels + 1)) := by
  intro text enough
  unfold scanLiteral
  split
  · next body =>
    have shorter : body.length < limit := Nat.lt_of_succ_lt enough
    rw [scanContainer, scanItems_eq (advances_scanEntry advances limit) (agrees_scanEntry agrees)
      _ _ shorter, Parser.scan, value, mapping]
    cases items (entry (value levels)) '\x7d' .unterminatedMapping false body with
    | error fault => rfl
    | ok entries =>
      simp only [scanned_ok, bind, Except.bind]
      cases mappingValue entries.value.1 <;> rfl
  · next body =>
    have shorter : body.length < limit := Nat.lt_of_succ_lt enough
    rw [scanContainer, scanItems_eq advances agrees _ _ shorter, Parser.scan, value, list]
    cases items (value levels) ']' .unterminatedSequence false body <;> rfl
  · next body =>
    have shorter : body.length < limit := Nat.lt_of_succ_lt enough
    rw [scanContainer, scanItems_eq advances agrees _ _ shorter, Parser.scan, value, tuple]
    cases items (value levels) ')' .unterminatedSequence false body <;> rfl
  · next noBrace noSquare noRound =>
    rw [agrees_scanScalar limit enough, Parser.scan, Parser.scan]
    cases text with
    | nil => rw [value_nil]
    | cons c rest =>
      have noBracket : c ∉ openingBrackets := by
        simp only [openingBrackets, List.mem_cons, List.not_mem_nil, or_false, not_or]
        exact ⟨fun is => noBrace rest (is ▸ rfl), fun is => noSquare rest (is ▸ rfl),
          fun is => noRound rest (is ▸ rfl)⟩
      rw [value_scalar noBracket]

/-- **The parser in loops reads a literal as the parser does**, by induction on the levels of
containers. -/
theorem agrees_scanValue (limit levels : Nat) :
    Agrees limit (scanValue limit levels) (value levels) := by
  induction levels with
  | zero =>
    intro text enough
    rw [scanValue, agrees_scanScalar limit enough, Parser.scan, Parser.scan]
    cases text with
    | nil =>
      rw [value_nil]
      rfl
    | cons c rest =>
      by_cases bracket : c ∈ openingBrackets
      · rw [value_zero_bracket bracket, if_pos (by simpa using bracket)]
        rfl
      · rw [value_scalar bracket, if_neg (by simpa using bracket)]
  | succ levels ih =>
    intro text enough
    rw [scanValue]
    exact agrees_scanLiteral (advances_scanValue limit levels) ih enough

theorem scanDocument_eq {text : List Char} (enough : text.length < limit) :
    scanDocument limit text = (document text).mapError .fault := by
  rw [scanDocument, agrees_scanValue limit nestingLimit (length_afterTrivia_lt enough),
    Parser.scan, document]
  cases value nestingLimit (afterTrivia text) with
  | error fault => rfl
  | ok found =>
    simp only [scanned_ok, bind, Except.bind]
    cases afterTrivia found.rest <;> rfl

theorem parse_of_scanDocument {text : String} {found : Value} (enough : text.length < limit)
    (scans : scanDocument limit text.toList = .ok found) : parse text = .ok found := by
  rw [← String.length_toList] at enough
  rw [scanDocument_eq enough, mapError_eq_ok_iff] at scans
  rw [parse, mapError_eq_ok_iff]
  exact scans

theorem parseRecord_of_scanDocument {text : String} {record : Record}
    (enough : text.length < limit) (scans : scanDocument limit text.toList = .ok (.record record)) :
    parseRecord text = .ok record := by
  rw [parseRecord, parse_of_scanDocument enough scans]

theorem parse_of_scanDocument_fault {text : String} {fault : Fault} (enough : text.length < limit)
    (scans : scanDocument limit text.toList = .error (.fault fault)) :
    parse text = .error (fault.locate text.toList) := by
  rw [← String.length_toList] at enough
  rw [scanDocument_eq enough, mapError_eq_error_iff] at scans
  obtain ⟨_, refused, same⟩ := scans
  rw [parse, refused, Stop.fault.inj same]
  rfl

/-! ### Places in a text -/

/-- What remains of a text lies ahead of a place in it: it begins at a later place. -/
def Ahead (text : List Char) (place : Nat) (rest : List Char) : Prop :=
  ∃ next, place < next ∧ next ≤ text.length ∧ rest = text.drop next

/-- A scanner that reads something at a place leaves the text at a later one. -/
def MovesOn (scan : Scanner α) : Prop :=
  ∀ text place value rest, place ≤ text.length →
    scan (text.drop place) = .ok (value, rest) → Ahead text place rest

/-- Every round of a loop that has no fault comes to a later place. -/
def RoundsMoveOn {γ : Type} (round : γ × List Char → Except Stop (Round (γ × List Char))) : Prop :=
  ∀ text place found result, place ≤ text.length →
    round (found, text.drop place) = .ok result → Ahead text place result.state.2

theorem exists_place_of_suffix {text rest : List Char} {place : Nat}
    (within : place ≤ text.length) (inside : rest <:+ text.drop place) :
    ∃ next, place ≤ next ∧ next ≤ text.length ∧ rest = text.drop next := by
  have shorter := inside.length_le
  rw [List.length_drop] at shorter
  refine ⟨text.length - rest.length, by omega, by omega, ?_⟩
  exact List.suffix_iff_eq_drop.mp (inside.trans (List.drop_suffix place text))

theorem Behind.ahead {text rest : List Char} {place : Nat} (behind : Behind rest (text.drop place))
    (within : place ≤ text.length) : Ahead text place rest := by
  obtain ⟨next, later, inside, rfl⟩ := exists_place_of_suffix within behind.1
  have shorter := behind.2
  rw [List.length_drop, List.length_drop] at shorter
  exact ⟨next, by omega, inside, rfl⟩

theorem Advances.movesOn {scan : Scanner α} (advances : Advances scan) : MovesOn scan := by
  intro text place value rest within read
  exact (advances read).ahead within

theorem roundsMoveOn_of_behind {γ : Type}
    {round : γ × List Char → Except Stop (Round (γ × List Char))}
    (moves : ∀ state result, round state = .ok result → Behind result.state.2 state.2) :
    RoundsMoveOn round := by
  intro text place found result within went
  exact (moves _ result went).ahead within

/-! ### Progress -/

/-- What the loops of the parser do at every place of every text, with any number of rounds and of
levels. -/
structure Progress (limit levels : Nat) : Prop where
  valueMovesOn : MovesOn (scanValue limit levels)
  keyMovesOn : MovesOn (scanKey limit)
  stringsMoveOn : MovesOn (scanStrings limit)
  stringMovesOn : MovesOn (scanString limit)
  numberMovesOn : MovesOn number.scan
  wordMovesOn : MovesOn scanWord
  /-- Trivia is never skipped backwards nor past the end. -/
  trivia : ∀ (text : List Char) (place : Nat), place ≤ text.length →
    ∃ next, place ≤ next ∧ next ≤ text.length ∧ afterTrivia (text.drop place) = text.drop next
  /-- Strings are left right behind the last of them, which no other one follows. -/
  lastString : ∀ (text : List Char) (place : Nat) (chars rest : List Char), place ≤ text.length →
    scanStrings limit (text.drop place) = .ok (chars, rest) →
    ∃ last next, place ≤ last ∧ last < next ∧ next ≤ text.length ∧ rest = text.drop next ∧
      Joined limit (text.drop place) chars (text.drop last) rest ∧
      (afterTrivia rest).head?.any isQuote = false
  characterRounds : ∀ start quote, RoundsMoveOn (characterRound start quote)
  /-- A round over strings moves on, or the loop is left at the place where the round began. -/
  stringRounds : ∀ (text : List Char) (place : Nat) (found : List Char)
    (result : Round (List Char × List Char)), place ≤ text.length →
    stringRound limit (found, text.drop place) = .ok result →
    (∃ next, result = .again next ∧ Ahead text place next.2) ∨
      result = .leave (found, text.drop place)
  entryRounds :
    RoundsMoveOn (itemRound (scanEntry limit (scanValue limit levels)) '\x7d' .unterminatedMapping)
  itemRounds : ∀ close,
    RoundsMoveOn (itemRound (scanValue limit levels) close .unterminatedSequence)
  /-- No loop is given up that may go through more rounds than there are characters. -/
  valueAgrees : Agrees limit (scanValue limit levels) (value levels)
  keyAgrees : Agrees limit (scanKey limit) key
  stringsAgree : ∀ text : List Char, text.length < limit →
    scanStrings limit text = stringsAt text ∧ scanString limit text = stringAt text

theorem progress (limit levels : Nat) : Progress limit levels where
  valueMovesOn := (advances_scanValue limit levels).movesOn
  keyMovesOn := (advances_scanKey limit).movesOn
  stringsMoveOn := (advances_scanStrings limit).movesOn
  stringMovesOn := (advances_scanString limit).movesOn
  numberMovesOn := (advances_scan number).movesOn
  wordMovesOn := advances_scanWord.movesOn
  trivia := by
    intro text place within
    exact exists_place_of_suffix within (afterTrivia_suffix _)
  lastString := by
    intro text place chars rest within read
    obtain ⟨⟨inner, joined⟩, noOther⟩ := joined_of_scanStrings read
    obtain ⟨inside, behind⟩ := joined.suffix_and_behind
    obtain ⟨last, later, inText, rfl⟩ := exists_place_of_suffix within inside
    obtain ⟨next, further, nextInText, rfl⟩ := behind.ahead inText
    exact ⟨last, next, later, further, nextInText, rfl, joined, noOther⟩
  characterRounds := by
    intro start quote
    exact roundsMoveOn_of_behind fun _ _ => behind_of_characterRound
  stringRounds := by
    intro text place found result within went
    cases result with
    | again next => exact .inl ⟨next, rfl, (behind_of_stringRound went).ahead within⟩
    | leave last =>
      obtain ⟨-, rfl⟩ := stringRound_eq_leave went
      exact .inr rfl
  entryRounds := by
    have advances := advances_scanEntry (advances_scanValue limit levels) limit
    exact roundsMoveOn_of_behind fun _ _ => behind_of_itemRound advances
  itemRounds := by
    intro close
    have advances := advances_scanValue limit levels
    exact roundsMoveOn_of_behind fun _ _ => behind_of_itemRound advances
  valueAgrees := agrees_scanValue limit levels
  keyAgrees := agrees_scanKey limit
  stringsAgree := by
    intro text enough
    exact ⟨scanStrings_eq enough, scanString_eq enough⟩

/-- **The parser makes progress and comes to an end.**  Whatever it reads at a place of a text, it
goes on at a later place.  So do its loops in every round but the one in which strings are left,
which goes back to the place behind the last of them.  With more rounds than the text has characters
no loop is given up, and the text is parsed or refused for a fault as by `parse`. -/
theorem parser_progresses :
    (∀ limit levels, Progress limit levels) ∧
      ∀ (text : String) (limit : Nat), text.length < limit → ∃ result : Except Fault Value,
        scanDocument limit text.toList = result.mapError .fault ∧
          parse text = result.mapError (·.locate text.toList) := by
  refine ⟨progress, ?_⟩
  intro text limit enough
  rw [← String.length_toList] at enough
  exact ⟨document text.toList, scanDocument_eq enough, rfl⟩

/-- Behind two strings the loop is left in front of the blank, and without its end the text is
refused. -/
theorem two_strings_end :
    (∃ last next, 1 ≤ last ∧ last < next ∧ next ≤ "['a' # b\n 'c' ]".toList.length ∧
      " ]".toList = "['a' # b\n 'c' ]".toList.drop next ∧
      Joined 30 ("['a' # b\n 'c' ]".toList.drop 1) "ac".toList ("['a' # b\n 'c' ]".toList.drop last)
        " ]".toList ∧
      (afterTrivia " ]".toList).head?.any isQuote = false) ∧
    parse "['a' # b\n 'c' ]" = .ok (.list [.string "ac"]) ∧
    parse "['a' # b\n 'c" = .error ⟨⟨2, 2⟩, .unterminatedString⟩ := by
  refine ⟨?_, ?_, ?_⟩
  · exact (parser_progresses.1 30 64).lastString "['a' # b\n 'c' ]".toList 1 "ac".toList " ]".toList
      (by decide) rfl
  · obtain ⟨result, scans, parses⟩ := parser_progresses.2 "['a' # b\n 'c' ]" 30 (by decide)
    have here : scanDocument 30 "['a' # b\n 'c' ]".toList = .ok (.list [.string "ac"]) := rfl
    rw [here] at scans
    cases result with
    | error fault => cases scans
    | ok value =>
      obtain rfl := Except.ok.inj scans
      exact parses
  · obtain ⟨result, scans, parses⟩ := parser_progresses.2 "['a' # b\n 'c" 30 (by decide)
    have here : scanDocument 30 "['a' # b\n 'c".toList =
      .error (.fault ⟨.unterminatedString, "'c".toList⟩) := rfl
    rw [here] at scans
    cases result with
    | error fault =>
      obtain rfl := Stop.fault.inj (Except.error.inj scans)
      exact parses
    | ok value => cases scans

end DumpDigest.Literal
