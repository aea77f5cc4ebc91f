import DumpDigest.Proofs.Literal.Mapping
import DumpDigest.Proofs.Literal.Scalar

/-!
# Sequences and containers are read as written

The readers of items and of entries take a reader for what they contain, and so do the lemmas here:
`Sound` and `Complete` compare a reader with a grammar, and the loop over items and the reader of
entries keep both.  `Complete` is about pieces that are `Delimited`, which items always are, since a
comma or the closing bracket follows them.

`round_of_items` is one round of the loop over items, and `items_closed`, `items_last` and
`items_more` are the three ways it can go.  Soundness goes by the length of the text, completeness
by the derivation.  Here the reader's flag and the grammar part ways: the reader says
that a comma stands in front of the bracket by passing `true` into the next round, the grammar by a
rule of its own, and `elements_of_items` lets the next round find nothing.
-/

namespace DumpDigest.Literal

open Text (Step)
open Result

/-! ### Readers and grammars -/

/-- What a reader takes for a piece is one of a grammar. -/
def Sound {α : Type} (reader : Parser α) (grammar : Grammar α) : Prop :=
  ∀ {text : List Char} {value : α} {rest : List Char},
    Yields (reader text) value rest → grammar text value rest

/-- A reader takes every piece of a grammar behind which the text is delimited. -/
def Complete {α : Type} (reader : Parser α) (grammar : Grammar α) : Prop :=
  ∀ {text : List Char} {value : α} {rest : List Char},
    grammar text value rest → Delimited rest → Yields (reader text) value rest

/-- No piece of a grammar begins with trivia or a separator. -/
def Begins {α : Type} (grammar : Grammar α) : Prop :=
  ∀ {text : List Char} {value : α} {rest : List Char},
    grammar text value rest → ∃ c more, text = c :: more ∧ Starts c

theorem Yields.shorter {α : Type} {text : List Char} {result : Except Fault (Step α text)}
    {value : α} {rest : List Char} (h : Yields result value rest) :
    rest.length < text.length := by
  obtain ⟨step, -, -, rfl⟩ := h
  exact step.shorter

theorem shorter_of_afterTrivia {text rest : List Char} {c : Char}
    (h : afterTrivia text = c :: rest) : rest.length < text.length :=
  (suffix_of_afterTrivia h).length_le

/-! ### Items -/

section items

variable {α : Type} {item : Parser α} {grammar : Grammar α} {close : Char} {unterminated : Cause}

/-- What one round of the loop over items reads: the bracket closes, or an item comes and behind it
the bracket closes or a comma and the next round come. -/
theorem round_of_items {text : List Char} {comma : Bool} {found : List α × Bool} {rest : List Char}
    (h : Yields (items item close unterminated comma text) found rest) :
    (afterTrivia text = close :: rest ∧ found = ([], comma)) ∨
      ∃ c more value behind, afterTrivia text = c :: more ∧ Yields (item (c :: more)) value behind ∧
        ((afterTrivia behind = close :: rest ∧ found = ([value], false)) ∨
        ∃ next others, afterTrivia behind = ',' :: next ∧
          Yields (items item close unterminated true next) others rest ∧
          found = (value :: others.1, others.2)) := by
  unfold items at h
  split at h
  · next c more starts =>
    split at h
    · next is =>
      obtain ⟨rfl, rfl⟩ := yields_pure_iff.mp h
      exact .inl ⟨is ▸ starts, rfl⟩
    · obtain ⟨first, firstRead, h⟩ := yields_bind_iff.mp h
      refine .inr ⟨c, more, first.value, first.rest, starts, ⟨first, firstRead, rfl, rfl⟩, ?_⟩
      split at h
      · exact absurd h not_yields_error
      · next next separates =>
        obtain ⟨others, othersRead, h⟩ := yields_bind_iff.mp h
        obtain ⟨rfl, rfl⟩ := yields_pure_iff.mp h
        exact .inr ⟨next, others.value, separates, ⟨others, othersRead, rfl, rfl⟩, rfl⟩
      · next d next _ separates =>
        split at h
        · next is =>
          obtain ⟨rfl, rfl⟩ := yields_pure_iff.mp h
          exact .inl ⟨is ▸ separates, rfl⟩
        · exact absurd h not_yields_error
  · split at h
    · exact absurd h not_yields_error
    · next step _ => exact absurd step.shorter (Nat.not_lt_zero _)

theorem items_closed {text : List Char} {comma : Bool} {rest : List Char}
    (closes : afterTrivia text = close :: rest) :
    Yields (items item close unterminated comma text) ([], comma) rest := by
  unfold items
  split
  · next is =>
    obtain ⟨rfl, rfl⟩ := List.cons.inj (is.symm.trans closes)
    rw [if_pos rfl]
    exact yields_ok _
  · next is => cases is.symm.trans closes

theorem items_last (noComma : close ≠ ',') {text more behind : List Char} {c : Char} {value : α}
    {comma : Bool} {rest : List Char} (starts : afterTrivia text = c :: more) (noClose : c ≠ close)
    (first : Yields (item (c :: more)) value behind)
    (closes : afterTrivia behind = close :: rest) :
    Yields (items item close unterminated comma text) ([value], false) rest := by
  obtain ⟨step, read, rfl, rfl⟩ := first
  unfold items
  split
  · next is =>
    obtain ⟨rfl, rfl⟩ := List.cons.inj (is.symm.trans starts)
    rw [if_neg noClose]
    refine yields_bind_iff.mpr ⟨step, read, ?_⟩
    split
    · next is => cases is.symm.trans closes
    · next is => exact absurd (List.cons.inj (is.symm.trans closes)).1.symm noComma
    · next is =>
      obtain ⟨rfl, rfl⟩ := List.cons.inj (is.symm.trans closes)
      rw [if_pos rfl]
      exact yields_ok _
  · next is => cases is.symm.trans starts

theorem items_more {text more behind next : List Char} {c : Char} {value : α} {comma : Bool}
    {others : List α × Bool} {rest : List Char} (starts : afterTrivia text = c :: more)
    (noClose : c ≠ close) (first : Yields (item (c :: more)) value behind)
    (separates : afterTrivia behind = ',' :: next)
    (further : Yields (items item close unterminated true next) others rest) :
    Yields (items item close unterminated comma text) (value :: others.1, others.2) rest := by
  obtain ⟨step, read, rfl, rfl⟩ := first
  obtain ⟨last, lastRead, rfl, rfl⟩ := further
  unfold items
  split
  · next is =>
    obtain ⟨rfl, rfl⟩ := List.cons.inj (is.symm.trans starts)
    rw [if_neg noClose]
    refine yields_bind_iff.mpr ⟨step, read, ?_⟩
    split
    · next is => cases is.symm.trans separates
    · next is =>
      obtain ⟨-, rfl⟩ := List.cons.inj (is.symm.trans separates)
      exact yields_bind_iff.mpr ⟨last, lastRead, yields_ok _⟩
    · next noComma is => exact absurd (List.cons.inj (is.symm.trans separates)).1 noComma
  · next is => cases is.symm.trans starts

theorem items_refused_first {text more : List Char} {c : Char} {comma : Bool} {fault : Fault}
    (starts : afterTrivia text = c :: more) (noClose : c ≠ close)
    (refused : item (c :: more) = .error fault) :
    items item close unterminated comma text = .error fault := by
  unfold items
  split
  · next is =>
    obtain ⟨rfl, rfl⟩ := List.cons.inj (is.symm.trans starts)
    rw [if_neg noClose]
    exact bind_eq_error_iff.mpr (.inl refused)
  · next is => cases is.symm.trans starts

theorem items_refused_later {text more behind next : List Char} {c : Char} {value : α}
    {comma : Bool} {fault : Fault} (starts : afterTrivia text = c :: more) (noClose : c ≠ close)
    (first : Yields (item (c :: more)) value behind) (separates : afterTrivia behind = ',' :: next)
    (refused : items item close unterminated true next = .error fault) :
    items item close unterminated comma text = .error fault := by
  obtain ⟨step, read, rfl, rfl⟩ := first
  unfold items
  split
  · next is =>
    obtain ⟨rfl, rfl⟩ := List.cons.inj (is.symm.trans starts)
    rw [if_neg noClose]
    refine bind_eq_error_iff.mpr (.inr ⟨step, read, ?_⟩)
    split
    · next is => cases is.symm.trans separates
    · next is =>
      obtain ⟨-, rfl⟩ := List.cons.inj (is.symm.trans separates)
      exact bind_eq_error_iff.mpr (.inl refused)
    · next noComma is => exact absurd (List.cons.inj (is.symm.trans separates)).1 noComma
  · next is => cases is.symm.trans starts

/-- What is read as items before which no comma is due is nothing or one item and more. -/
theorem elements_of_items (sound : Sound item grammar) (text : List Char) :
    ∀ {comma : Bool} {found : List α × Bool} {rest : List Char},
      Yields (items item close unterminated comma text) found rest →
        (Trivia text (close :: rest) ∧ found = ([], comma)) ∨
          Elements grammar close text found rest := by
  induction hn : text.length using Nat.strongRecOn generalizing text with
  | ind n ih =>
    subst hn
    intro comma found rest h
    rcases round_of_items h with ⟨closes, rfl⟩ | ⟨c, more, value, behind, starts, first, h⟩
    · exact .inl ⟨closes ▸ trivia_afterTrivia text, rfl⟩
    · have before : Trivia text (c :: more) := starts ▸ trivia_afterTrivia text
      rcases h with ⟨closes, rfl⟩ | ⟨next, others, separates, othersRead, rfl⟩
      · exact .inr (.last before (sound first) (closes ▸ trivia_afterTrivia behind))
      · have after : Trivia behind (',' :: next) := separates ▸ trivia_afterTrivia behind
        have shorter : next.length < text.length :=
          calc next.length
            _ < behind.length := shorter_of_afterTrivia separates
            _ ≤ (c :: more).length := first.shorter.le
            _ ≤ text.length := (suffix_of_afterTrivia starts).length_le
        rcases ih _ shorter next rfl othersRead with ⟨closes, rfl⟩ | further
        · exact .inr (.comma before (sound first) after closes)
        · exact .inr (.more before (sound first) after further)

theorem sequence_of_items (sound : Sound item grammar) {text : List Char} {found : List α × Bool}
    {rest : List Char}
    (h : Yields (items item close unterminated false text) found rest) :
    Sequence grammar close text found rest := by
  rcases elements_of_items sound text h with ⟨closes, rfl⟩ | elements
  · exact .empty closes
  · exact .elements elements

variable (grammar) in
/-- Behind trivia stands the item that the grammar finds there, and it does not look like the
closing bracket. -/
theorem starts_first (begins : Begins grammar) (separates : close ∈ separators)
    {text start behind : List Char} {value : α} (before : Trivia text start)
    (first : grammar start value behind) :
    ∃ c more, start = c :: more ∧ afterTrivia text = c :: more ∧ c ≠ close := by
  obtain ⟨c, more, rfl, starts⟩ := begins first
  refine ⟨c, more, rfl, before.eq_afterTrivia (starts.afterTrivia_eq more), ?_⟩
  rintro rfl
  exact starts.2.2 separates

/-- An item is read behind trivia, and it does not look like the closing bracket. -/
theorem yields_first (begins : Begins grammar) (complete : Complete item grammar)
    (separates : close ∈ separators) {text start behind : List Char} {value : α}
    (before : Trivia text start) (first : grammar start value behind)
    (delimited : Delimited behind) :
    ∃ c more, afterTrivia text = c :: more ∧ c ≠ close ∧
      Yields (item (c :: more)) value behind := by
  obtain ⟨c, more, rfl, starts, noClose⟩ := starts_first grammar begins separates before first
  exact ⟨c, more, starts, noClose, complete first delimited⟩

theorem items_of_elements (noComma : close ≠ ',') (separates : close ∈ separators)
    (begins : Begins grammar) (complete : Complete item grammar) {text : List Char}
    {found : List α × Bool} {rest : List Char} (h : Elements grammar close text found rest) :
    ∀ {comma : Bool}, Yields (items item close unterminated comma text) found rest := by
  have commaSeparates : ',' ∈ separators := by decide
  induction h with
  | last before first after =>
    intro comma
    obtain ⟨c, more, starts, noClose, read⟩ :=
      yields_first begins complete separates before first (after.delimited separates)
    exact items_last noComma starts noClose read (after.eq_separator separates)
  | comma before first after closes =>
    intro comma
    obtain ⟨c, more, starts, noClose, read⟩ :=
      yields_first begins complete separates before first (after.delimited commaSeparates)
    exact items_more starts noClose read (after.eq_separator commaSeparates)
      (items_closed (closes.eq_separator separates))
  | more before first after further ih =>
    intro comma
    obtain ⟨c, more, starts, noClose, read⟩ :=
      yields_first begins complete separates before first (after.delimited commaSeparates)
    exact items_more starts noClose read (after.eq_separator commaSeparates) ih

theorem items_of_sequence (unterminated : Cause) (noComma : close ≠ ',')
    (separates : close ∈ separators) (begins : Begins grammar) (complete : Complete item grammar)
    {text : List Char} {found : List α × Bool} {rest : List Char}
    (h : Sequence grammar close text found rest) :
    Yields (items item close unterminated false text) found rest := by
  cases h with
  | empty closes => exact items_closed (closes.eq_separator separates)
  | elements elements => exact items_of_elements noComma separates begins complete elements

end items

/-! ### Entries -/

section entry

variable {reader : Parser Value} {grammar : Grammar Value}

theorem sound_entry (sound : Sound reader grammar) : Sound (entry reader) (EntryText grammar) := by
  intro text found rest h
  unfold entry at h
  obtain ⟨named, namedRead, h⟩ := yields_bind_iff.mp h
  have name := keyText_of_key ⟨named, namedRead, rfl, rfl⟩
  split at h
  · next behind colon =>
    obtain ⟨held, heldRead, h⟩ := yields_bind_iff.mp h
    obtain ⟨rfl, rfl⟩ := yields_pure_iff.mp h
    exact .mk name (colon ▸ trivia_afterTrivia named.rest) (trivia_afterTrivia behind)
      (sound ⟨held, heldRead, rfl, rfl⟩)
  · exact absurd h not_yields_error

theorem begins_entry : Begins (EntryText grammar) := by
  intro text found rest h
  cases h with
  | mk named =>
    obtain ⟨c, more, rfl, start⟩ := named.start
    exact ⟨c, more, rfl, start.scalarStart.starts.1⟩

theorem yields_entry {text behind next rest : List Char} {name : Key} {held : Value}
    (named : Yields (key text) name behind) (colon : afterTrivia behind = ':' :: next)
    (holds : Yields (reader (afterTrivia next)) held rest) :
    Yields (entry reader text) (name, held) rest := by
  obtain ⟨name, nameRead, rfl, rfl⟩ := named
  unfold entry
  refine yields_bind_iff.mpr ⟨name, nameRead, ?_⟩
  split
  · next behind is =>
    obtain ⟨-, rfl⟩ := List.cons.inj (is.symm.trans colon)
    obtain ⟨held, heldRead, rfl, rfl⟩ := holds
    exact yields_bind_iff.mpr ⟨held, heldRead, yields_ok _⟩
  · next noColon => exact absurd colon (noColon _)

theorem entry_refused {text behind next : List Char} {name : Key} {fault : Fault}
    (named : Yields (key text) name behind) (colon : afterTrivia behind = ':' :: next)
    (refused : reader (afterTrivia next) = .error fault) : entry reader text = .error fault := by
  obtain ⟨name, nameRead, rfl, rfl⟩ := named
  unfold entry
  refine bind_eq_error_iff.mpr (.inr ⟨name, nameRead, ?_⟩)
  split
  · next behind is =>
    obtain ⟨-, rfl⟩ := List.cons.inj (is.symm.trans colon)
    exact bind_eq_error_iff.mpr (.inl refused)
  · next noColon => exact absurd colon (noColon _)

theorem complete_entry (begins : Begins grammar) (complete : Complete reader grammar) :
    Complete (entry reader) (EntryText grammar) := by
  intro text found rest h delimited
  cases h with
  | mk named colon before holds =>
    have colonSeparates : ':' ∈ separators := by decide
    obtain ⟨c, more, rfl, starts⟩ := begins holds
    have starts := before.eq_afterTrivia (starts.afterTrivia_eq more)
    exact yields_entry (yields_key named (colon.delimited colonSeparates))
      (colon.eq_separator colonSeparates) (starts ▸ complete holds delimited)

end entry

/-! ### Containers -/

section containers

variable {reader : Parser Value} {grammar : Grammar Value}

theorem yields_map_behind_iff {α β : Type} {body rest : List Char} {c : Char} {f : α → β}
    {result : Except Fault (Step α body)} {found : β} :
    Yields (do let step ← result; return (step.map f).behind c) found rest ↔
      ∃ value, Yields result value rest ∧ f value = found := by
  constructor
  · intro h
    obtain ⟨step, read, h⟩ := yields_bind_iff.mp h
    obtain ⟨rfl, rfl⟩ := yields_pure_iff.mp h
    exact ⟨step.value, ⟨step, read, rfl, rfl⟩, rfl⟩
  · rintro ⟨_, ⟨step, read, rfl, rfl⟩, rfl⟩
    exact yields_bind_iff.mpr ⟨step, read, yields_ok _⟩

theorem yields_mapping_iff {body rest : List Char} {found : Value} :
    Yields (mapping reader body) found rest ↔ ∃ entries,
      Yields (items (entry reader) '\x7d' .unterminatedMapping false body) entries rest ∧
        MappingMeans entries.1 found := by
  constructor
  · intro h
    obtain ⟨step, read, h⟩ := yields_bind_iff.mp h
    refine ⟨step.value, ⟨step, read, rfl, ?_⟩, ?_⟩
    · split at h
      · exact absurd h not_yields_error
      · exact (yields_pure_iff.mp h).2
    · split at h
      · exact absurd h not_yields_error
      · next value means =>
        rw [← (yields_pure_iff.mp h).1]
        exact mappingValue_eq_ok_iff.mp means
  · rintro ⟨_, ⟨step, read, rfl, rfl⟩, means⟩
    refine yields_bind_iff.mpr ⟨step, read, ?_⟩
    rw [mappingValue_eq_ok_iff.mpr means]
    exact yields_ok _

theorem tupleValue_of_told {values : List Value} {comma : Bool}
    (told : values.length = 1 → comma = true) : tupleValue (values, comma) = .list values := by
  unfold tupleValue
  split
  · next is =>
    obtain ⟨rfl, rfl⟩ := Prod.mk.inj is
    cases told rfl
  · next is => rw [(Prod.mk.inj is).1]

theorem container_of_list (sound : Sound reader grammar) {body rest : List Char} {found : Value}
    (h : Yields (list reader body) found rest) : Container grammar ('[' :: body) found rest := by
  obtain ⟨⟨values, comma⟩, read, rfl⟩ := yields_map_behind_iff.mp h
  exact .list (sequence_of_items sound read)

theorem container_of_tuple (sound : Sound reader grammar) {body rest : List Char} {found : Value}
    (h : Yields (tuple reader body) found rest) : Container grammar ('(' :: body) found rest := by
  obtain ⟨values, read, rfl⟩ := yields_map_behind_iff.mp h
  have sequence := sequence_of_items sound read
  unfold tupleValue
  split
  · exact .parenthesized sequence
  · next items comma single =>
    refine .tuple sequence fun one => ?_
    obtain ⟨value, rfl⟩ := List.length_eq_one_iff.mp one
    cases comma with
    | false => exact absurd rfl (single value rfl)
    | true => rfl

theorem container_of_mapping (sound : Sound reader grammar) {body rest : List Char} {found : Value}
    (h : Yields (mapping reader body) found rest) :
    Container grammar ('\x7b' :: body) found rest := by
  obtain ⟨⟨entries, comma⟩, read, means⟩ := yields_mapping_iff.mp h
  exact .mapping (sequence_of_items (sound_entry sound) read) means

end containers

end DumpDigest.Literal
