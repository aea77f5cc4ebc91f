import DumpDigest.Proofs.Literal.Reading

/-!
# Strings are read as written

`stringsText_of_strings` says that what the reader of strings accepts is one string or several next
to one another, decoded as the grammar says, and `strings_of_stringsText` that it accepts all of
them.  The second needs the strings to end where the derivation says: the reader goes on as long as
another quote follows, and then what is behind it is not `Delimited`.

Escapes come first.  A backslash and a character stand for what `escapes` lists, or for themselves;
`simpleEscape_eq` is the one place where the list is gone through.
-/

namespace DumpDigest.Literal

open Text (Step)
open Result

/-! ### Escapes -/

/-- A backslash and a character stand for what is listed, and otherwise for themselves. -/
theorem simpleEscape_eq (c : Char) :
    simpleEscape c = match escapes.lookup c with
      | some meant => [meant]
      | none => ['\\', c] := by
  unfold simpleEscape
  split
  case h_12 =>
    have absent : escapes.lookup c = none := by
      rw [List.lookup_eq_none_iff]
      simp_all [escapes]
    rw [absent]
  all_goals rfl

theorem yields_escape_simple {c : Char} (simple : c ≠ 'x') (rest : List Char) :
    Yields (escape (c :: rest)) (simpleEscape c) rest := by
  have read : escape (c :: rest) = .ok (.one (simpleEscape c) c rest) := by
    rw [escape]
    · exact fun _ _ _ is => absurd is simple
    · exact simple
  rw [read]
  exact yields_ok _

theorem yields_escape_hexadecimal {high low : Char} {h l : Nat} (rest : List Char)
    (first : Text.hexDigit? high = some h) (second : Text.hexDigit? low = some l) :
    Yields (escape ('x' :: high :: low :: rest)) [Char.ofNat (16 * h + l)] rest := by
  simp only [escape, first, second]
  exact yields_ok _

/-- **What is read as an escape is one**, with its backslash in front. -/
theorem stringPart_of_escape (quote : Char) {text meant rest : List Char}
    (h : Yields (escape text) meant rest) :
    ∃ piece, text = piece ++ rest ∧ StringPart quote ('\\' :: piece) meant := by
  unfold escape at h
  split at h
  · exact absurd h not_yields_error
  · next high low behind =>
    split at h
    · next first second =>
      obtain ⟨_, he, rfl, rfl⟩ := h
      obtain rfl := Except.ok.inj he
      exact ⟨['x', high, low], rfl, .hexadecimal first second⟩
    · exact absurd h not_yields_error
  · exact absurd h not_yields_error
  · next c behind long short =>
    obtain ⟨_, he, rfl, rfl⟩ := h
    obtain rfl := Except.ok.inj he
    refine ⟨[c], rfl, ?_⟩
    show StringPart quote ['\\', c] (simpleEscape c)
    rw [simpleEscape_eq]
    have noHexadecimal : c ≠ 'x' := fun is => short is
    cases listed : escapes.lookup c with
    | some meant => exact .known listed
    | none => exact .unknown noHexadecimal listed

/-! ### One string -/

theorem quotedText_of_stringBody (start : List Char) (quote : Char) (text : List Char) :
    ∀ {meant rest : List Char}, Yields (stringBody start quote text) meant rest →
      QuotedText quote text meant rest := by
  induction text using stringBody.induct quote with
  | case1 =>
    intro meant rest h
    rw [stringBody] at h
    exact absurd h not_yields_error
  | case2 text =>
    intro meant rest h
    rw [stringBody, if_pos rfl] at h
    obtain ⟨rfl, rfl⟩ := yields_pure_iff.mp h
    exact .close _
  | case3 text noQuote =>
    intro meant rest h
    rw [stringBody, if_neg noQuote, if_pos rfl] at h
    exact absurd h not_yields_error
  | case4 text noQuote noBreak ih =>
    intro meant rest h
    rw [stringBody, if_neg noQuote, if_neg noBreak, if_pos rfl] at h
    obtain ⟨escaped, escapeRead, h⟩ := yields_bind_iff.mp h
    obtain ⟨body, bodyRead, h⟩ := yields_bind_iff.mp h
    obtain ⟨rfl, rfl⟩ := yields_pure_iff.mp h
    obtain ⟨piece, split_eq, part⟩ := stringPart_of_escape quote ⟨escaped, escapeRead, rfl, rfl⟩
    have read := QuotedText.part part (ih escaped ⟨body, bodyRead, rfl, rfl⟩)
    rw [List.cons_append, ← split_eq] at read
    exact read
  | case5 c text noQuote noBreak noBackslash ih =>
    intro meant rest h
    rw [stringBody, if_neg noQuote, if_neg noBreak, if_neg noBackslash] at h
    obtain ⟨body, bodyRead, h⟩ := yields_bind_iff.mp h
    obtain ⟨rfl, rfl⟩ := yields_pure_iff.mp h
    exact .part (.plain noQuote noBackslash noBreak) (ih ⟨body, bodyRead, rfl, rfl⟩)

theorem isQuote_ne {quote : Char} (opens : isQuote quote = true) : '\\' ≠ quote ∧ '\n' ≠ quote := by
  constructor <;> rintro rfl <;> exact absurd opens (by decide)

theorem yields_stringBody_escape {start text behind meant others rest : List Char} {quote : Char}
    (opens : isQuote quote = true) (escaped : Yields (escape text) meant behind)
    (body : Yields (stringBody start quote behind) others rest) :
    Yields (stringBody start quote ('\\' :: text)) (meant ++ others) rest := by
  obtain ⟨escaped, escapeRead, rfl, rfl⟩ := escaped
  obtain ⟨body, bodyRead, rfl, rfl⟩ := body
  rw [stringBody, if_neg (isQuote_ne opens).1, if_neg (by decide), if_pos rfl]
  exact yields_bind_iff.mpr ⟨escaped, escapeRead, yields_bind_iff.mpr ⟨body, bodyRead, yields_ok _⟩⟩

/-- **A string is read as it is written.** -/
theorem stringBody_of_quotedText (start : List Char) {text meant rest : List Char} {quote : Char}
    (opens : isQuote quote = true) (h : QuotedText quote text meant rest) :
    Yields (stringBody start quote text) meant rest := by
  induction h with
  | close rest =>
    rw [stringBody, if_pos rfl]
    exact yields_ok _
  | part part more ih =>
    cases part with
    | plain noQuote noBackslash noBreak =>
      rw [List.singleton_append, stringBody, if_neg noQuote, if_neg noBreak, if_neg noBackslash]
      obtain ⟨body, bodyRead, rfl, rfl⟩ := ih
      exact yields_bind_iff.mpr ⟨body, bodyRead, yields_ok _⟩
    | @known c meant known =>
      have simple : c ≠ 'x' := by
        rintro rfl
        cases known.symm.trans (show escapes.lookup 'x' = none by decide)
      have escaped := yields_escape_simple simple
      rw [simpleEscape_eq, known] at escaped
      exact yields_stringBody_escape opens (escaped _) ih
    | @hexadecimal high low h l first second =>
      exact yields_stringBody_escape opens (yields_escape_hexadecimal _ first second) ih
    | @unknown c noHexadecimal unknown =>
      have escaped := yields_escape_simple noHexadecimal
      rw [simpleEscape_eq, unknown] at escaped
      exact yields_stringBody_escape opens (escaped _) ih

/-! ### Strings next to one another -/

theorem stringsText_of_strings {quote : Char} (opens : isQuote quote = true) (body : List Char)
    {meant rest : List Char} (h : Yields (strings quote body) meant rest) :
    StringsText (quote :: body) meant rest := by
  induction hn : body.length using Nat.strongRecOn generalizing quote body meant rest with
  | ind n ih =>
    subst hn
    rw [strings] at h
    obtain ⟨first, firstRead, h⟩ := yields_bind_iff.mp h
    have string : QuotedText quote body first.value first.rest :=
      quotedText_of_stringBody _ quote body ⟨first, firstRead, rfl, rfl⟩
    have apart := trivia_afterTrivia first.rest
    dsimp only at h
    split at h
    · obtain ⟨rfl, rfl⟩ := yields_pure_iff.mp h
      exact .one opens string
    · next next behind follows =>
      rw [follows] at apart
      split at h
      · next opensNext =>
        obtain ⟨others, othersRead, h⟩ := yields_bind_iff.mp h
        obtain ⟨rfl, rfl⟩ := yields_pure_iff.mp h
        have shorter : behind.length < body.length :=
          Nat.lt_trans (suffix_of_afterTrivia follows).length_le first.shorter
        exact .more opens string apart
          (ih behind.length shorter opensNext behind ⟨others, othersRead, rfl, rfl⟩ rfl)
      · obtain ⟨rfl, rfl⟩ := yields_pure_iff.mp h
        exact .one opens string

theorem StringsText.opens {text meant rest : List Char} (h : StringsText text meant rest) :
    ∃ quote body, text = quote :: body ∧ isQuote quote = true := by
  cases h with
  | one opens => exact ⟨_, _, rfl, opens⟩
  | more opens => exact ⟨_, _, rfl, opens⟩

theorem afterTrivia_quote {quote : Char} (opens : isQuote quote = true) (text : List Char) :
    afterTrivia (quote :: text) = quote :: text := by
  have quotes : quote = '"' ∨ quote = '\'' := by simpa [isQuote] using opens
  rcases quotes with rfl | rfl <;> exact afterTrivia_cons (by decide) (by decide) text

theorem not_isQuote_separator {c : Char} (separates : c ∈ separators) : isQuote c = false := by
  have none : ∀ d ∈ separators, isQuote d = false := List.all_iff_forall_prop.mp (by decide)
  exact none c separates

/-- **Strings next to one another are read as they are written**, if they are all. -/
theorem strings_of_stringsText {text meant rest : List Char} (h : StringsText text meant rest)
    (delimited : Delimited rest) {quote : Char} {body : List Char} (starts : text = quote :: body) :
    Yields (strings quote body) meant rest := by
  induction h generalizing quote body with
  | @one quote' body' meant rest opens string =>
    obtain ⟨rfl, rfl⟩ := List.cons.inj starts
    obtain ⟨first, firstRead, rfl, rfl⟩ :=
      stringBody_of_quotedText (quote' :: body') opens string
    rw [strings]
    refine yields_bind_iff.mpr ⟨first, firstRead, ?_⟩
    dsimp only
    split
    · exact yields_ok _
    · next next behind follows =>
      have separates : next ∈ separators := delimited next (by rw [follows]; rfl)
      rw [if_neg (by rw [not_isQuote_separator separates]; decide)]
      exact yields_ok _
  | @more quote' body' meant behind next others rest opens string apart more ih =>
    obtain ⟨rfl, rfl⟩ := List.cons.inj starts
    obtain ⟨first, firstRead, rfl, rfl⟩ :=
      stringBody_of_quotedText (quote' :: body') opens string
    obtain ⟨nextQuote, nextBody, rfl, opensNext⟩ := more.opens
    have follows' := apart.eq_afterTrivia (afterTrivia_quote opensNext nextBody)
    rw [strings]
    refine yields_bind_iff.mpr ⟨first, firstRead, ?_⟩
    dsimp only
    split
    · next follows =>
      rw [follows] at follows'
      cases follows'
    · next next' behind follows =>
      obtain ⟨rfl, rfl⟩ := List.cons.inj (follows.symm.trans follows')
      rw [if_pos opensNext]
      obtain ⟨read, readOthers, rfl, rfl⟩ := ih delimited rfl
      exact yields_bind_iff.mpr ⟨read, readOthers, yields_ok _⟩

end DumpDigest.Literal
