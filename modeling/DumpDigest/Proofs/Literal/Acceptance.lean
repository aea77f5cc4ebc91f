import DumpDigest.Proofs.Literal.Containers

/-!
# Parsing accepts exactly the literals

`parse_eq_ok_iff` is the main result: a text parses to a value exactly if it is trivia, a literal of
that value with at most 64 containers inside one another, and trivia again.

The two directions for one literal go by induction on the levels, with the lemmas on containers for
the step.  Which reader comes next is decided by the first character, so `value_scalar` needs that
no literal without containers begins with a bracket.
-/

namespace DumpDigest.Literal

open Text (Step)
open Result

/-! ### Literals -/

theorem value_nil (levels : Nat) : value levels [] = scalar [] := by
  cases levels <;> rw [value] <;> simp

theorem value_scalar {c : Char} (noBracket : c ∉ openingBrackets) (levels : Nat)
    (more : List Char) : value levels (c :: more) = scalar (c :: more) := by
  have differs : c ≠ '\x7b' ∧ c ≠ '[' ∧ c ≠ '(' := by simpa [openingBrackets] using noBracket
  obtain ⟨noBrace, noSquare, noRound⟩ := differs
  cases levels with
  | zero => simp [value, noBrace, noSquare, noRound]
  | succ levels => rw [value] <;> simp [noBrace, noSquare, noRound]

theorem value_zero_bracket {c : Char} (bracket : c ∈ openingBrackets) (more : List Char) :
    value 0 (c :: more) = .error ⟨.tooDeep, c :: more⟩ := by
  have is : (c = '\x7b' || c = '[' || c = '(') = true := by
    simpa [openingBrackets, or_assoc] using bracket
  rw [value, if_pos is]

/-- **What is read as a literal is one.** -/
theorem sound_value (levels : Nat) : Sound (value levels) (LiteralText levels) := by
  induction levels with
  | zero =>
    intro text found rest h
    cases text with
    | nil => exact scalar_of_yields (value_nil 0 ▸ h)
    | cons c more =>
      by_cases bracket : c ∈ openingBrackets
      · rw [value_zero_bracket bracket] at h
        exact absurd h not_yields_error
      · rw [value_scalar bracket] at h
        exact scalar_of_yields h
  | succ levels ih =>
    intro text found rest h
    cases text with
    | nil => exact .inl (scalar_of_yields (value_nil (levels + 1) ▸ h))
    | cons c more =>
      by_cases bracket : c ∈ openingBrackets
      · simp only [openingBrackets, List.mem_cons, List.not_mem_nil, or_false] at bracket
        rcases bracket with rfl | rfl | rfl
        · exact .inr (container_of_mapping ih h)
        · exact .inr (container_of_list ih h)
        · exact .inr (container_of_tuple ih h)
      · rw [value_scalar bracket] at h
        exact .inl (scalar_of_yields h)

theorem Container.start {grammar : Grammar Value} {text rest : List Char} {found : Value}
    (h : Container grammar text found rest) : ∃ c more, text = c :: more ∧ c ∈ openingBrackets := by
  cases h with
  | list => exact ⟨'[', _, rfl, by decide⟩
  | parenthesized => exact ⟨'(', _, rfl, by decide⟩
  | tuple => exact ⟨'(', _, rfl, by decide⟩
  | mapping => exact ⟨'\x7b', _, rfl, by decide⟩

theorem begins_literal (levels : Nat) : Begins (LiteralText levels) := by
  intro text found rest h
  have scalars : ∀ {text : List Char}, Scalar text found rest →
      ∃ c more, text = c :: more ∧ Starts c := by
    intro text scalar
    obtain ⟨c, more, rfl, start⟩ := scalar.start
    exact ⟨c, more, rfl, start.starts.1⟩
  cases levels with
  | zero => exact scalars h
  | succ levels =>
    rcases h with scalar | container
    · exact scalars scalar
    · have brackets : ∀ c ∈ openingBrackets, Starts c := List.all_iff_forall_prop.mp (by decide)
      obtain ⟨c, more, rfl, bracket⟩ := container.start
      exact ⟨c, more, rfl, brackets c bracket⟩

theorem value_of_scalar (levels : Nat) {text rest : List Char} {found : Value}
    (h : Scalar text found rest) (delimited : Delimited rest) :
    Yields (value levels text) found rest := by
  obtain ⟨c, more, rfl, start⟩ := h.start
  rw [value_scalar start.starts.2]
  exact h.yields delimited

/-- **A literal is read as it is written.** -/
theorem complete_value (levels : Nat) : Complete (value levels) (LiteralText levels) := by
  induction levels with
  | zero =>
    intro text found rest h delimited
    exact value_of_scalar 0 h delimited
  | succ levels ih =>
    intro text found rest h delimited
    have begins : Begins (LiteralText levels) := begins_literal levels
    rcases h with scalar | container
    · exact value_of_scalar (levels + 1) scalar delimited
    cases container with
    | list sequence =>
      have read :=
        items_of_sequence .unterminatedSequence (by decide) (by decide) begins ih sequence
      exact yields_map_behind_iff.mpr ⟨_, read, rfl⟩
    | parenthesized sequence =>
      have read :=
        items_of_sequence .unterminatedSequence (by decide) (by decide) begins ih sequence
      exact yields_map_behind_iff.mpr ⟨_, read, rfl⟩
    | tuple sequence told =>
      have read :=
        items_of_sequence .unterminatedSequence (by decide) (by decide) begins ih sequence
      exact yields_map_behind_iff.mpr ⟨_, read, tupleValue_of_told told⟩
    | mapping sequence means =>
      have read := items_of_sequence .unterminatedMapping (by decide) (by decide) begins_entry
        (complete_entry begins ih) sequence
      exact yields_mapping_iff.mpr ⟨_, read, means⟩

/-! ### Documents -/

theorem document_eq_ok_iff {text : List Char} {found : Value} :
    document text = .ok found ↔
      ∃ behind, Yields (value nestingLimit (afterTrivia text)) found behind ∧
        afterTrivia behind = [] := by
  constructor
  · intro h
    obtain ⟨step, read, h⟩ := bind_eq_ok_iff.mp h
    split at h
    · next ends =>
      obtain rfl := Except.ok.inj h
      exact ⟨step.rest, ⟨step, read, rfl, rfl⟩, ends⟩
    · cases h
  · rintro ⟨_, ⟨step, read, rfl, rfl⟩, ends⟩
    refine bind_eq_ok_iff.mpr ⟨step, read, ?_⟩
    rw [ends]
    rfl

/-- A text is a literal of a value between trivia. -/
def Denotes (text : List Char) (found : Value) : Prop :=
  ∃ body behind, Trivia text body ∧ LiteralText nestingLimit body found behind ∧ Trivia behind []

theorem denotes_of_parse {text : String} {found : Value} (h : parse text = .ok found) :
    Denotes text.toList found := by
  obtain ⟨behind, read, ends⟩ := document_eq_ok_iff.mp (mapError_eq_ok_iff.mp h)
  exact ⟨_, behind, trivia_afterTrivia _, sound_value _ read, ends ▸ trivia_afterTrivia behind⟩

theorem parse_of_denotes {text : String} {found : Value} (h : Denotes text.toList found) :
    parse text = .ok found := by
  obtain ⟨body, behind, before, literal, after⟩ := h
  obtain ⟨c, more, rfl, starts⟩ := begins_literal nestingLimit literal
  have skipped := before.eq_afterTrivia (starts.afterTrivia_eq more)
  refine mapError_eq_ok_iff.mpr (document_eq_ok_iff.mpr ⟨behind, ?_, after.eq_afterTrivia rfl⟩)
  rw [skipped]
  exact complete_value nestingLimit literal after.delimited_end

/-- **A text parses to a value exactly if it is a literal of that value between trivia**, with at
most 64 containers inside one another. -/
theorem parse_eq_ok_iff (text : String) (found : Value) :
    parse text = .ok found ↔
      ∃ body behind,
        Trivia text.toList body ∧ LiteralText 64 body found behind ∧ Trivia behind [] :=
  ⟨denotes_of_parse, parse_of_denotes⟩

end DumpDigest.Literal
