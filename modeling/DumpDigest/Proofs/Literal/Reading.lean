import DumpDigest.Proofs.Literal.Grammar
import DumpDigest.Proofs.Result
import Mathlib.Data.Bool.AllAny

/-!
# What the readers leave

A reader's result is compared with the grammar through `Yields`: the value it found and the rest it
left.

Trivia comes first.  The grammar lets a derivation stop in the middle of it, while `afterTrivia`
always passes over all of it; `Trivia.afterTrivia_eq` says that this is the only difference, and
`trivia_afterTrivia` that what it passes over is trivia.

Readers take as much as they can, so a piece is read back only if nothing behind it could belong to
it.  Inside a document this always holds: behind a piece the text ends or, past trivia, a separator
or a closing bracket stands.  That is `Delimited`, and `Delimited.head` draws from it that no
character of a word or of a number stands right behind the piece.
-/

namespace DumpDigest.Literal

open Text (Step)
open Result

/-! ### Results -/

/-- A result is a value in front of a rest. -/
def Yields {α : Type} {text : List Char} (result : Except Fault (Step α text)) (value : α)
    (rest : List Char) : Prop :=
  ∃ step, result = .ok step ∧ step.value = value ∧ step.rest = rest

theorem yields_ok {α : Type} {text : List Char} (step : Step α text) :
    Yields (.ok step) step.value step.rest :=
  ⟨step, rfl, rfl, rfl⟩

theorem not_yields_error {α : Type} {text : List Char} {fault : Fault} {value : α}
    {rest : List Char} : ¬ Yields (.error fault : Except Fault (Step α text)) value rest := by
  rintro ⟨_, h, _⟩
  cases h

theorem yields_pure_iff {α : Type} {text : List Char} {step : Step α text} {value : α}
    {rest : List Char} :
    Yields (pure step) value rest ↔ step.value = value ∧ step.rest = rest := by
  constructor
  · rintro ⟨_, h, rfl, rfl⟩
    obtain rfl := Except.ok.inj h
    exact ⟨rfl, rfl⟩
  · rintro ⟨rfl, rfl⟩
    exact yields_ok step

theorem yields_bind_iff {α β : Type} {inner text : List Char} {first : Except Fault (Step α inner)}
    {next : Step α inner → Except Fault (Step β text)} {value : β} {rest : List Char} :
    Yields (first >>= next) value rest ↔
      ∃ step, first = .ok step ∧ Yields (next step) value rest := by
  constructor
  · rintro ⟨last, h, found⟩
    obtain ⟨step, here, there⟩ := bind_eq_ok_iff.mp h
    exact ⟨step, here, last, there, found⟩
  · rintro ⟨step, rfl, last, there, found⟩
    exact ⟨last, there, found⟩

/-! ### Trivia -/

theorem skipTrivia_line {line : List Char} (oneLine : '\n' ∉ line) (rest : List Char) :
    skipTrivia true (line ++ '\n' :: rest) = skipTrivia false rest := by
  induction line with
  | nil => rfl
  | cons c line ih =>
    rw [List.mem_cons, not_or] at oneLine
    rw [List.cons_append, skipTrivia, if_pos rfl, decide_eq_true (Ne.symm oneLine.1)]
    exact ih oneLine.2

theorem skipTrivia_lastLine {line : List Char} (oneLine : '\n' ∉ line) :
    skipTrivia true line = [] := by
  induction line with
  | nil => rfl
  | cons c line ih =>
    rw [List.mem_cons, not_or] at oneLine
    rw [skipTrivia, if_pos rfl, decide_eq_true (Ne.symm oneLine.1)]
    exact ih oneLine.2

theorem afterTrivia_blank {c : Char} (blank : Text.isBlank c = true) (text : List Char) :
    afterTrivia (c :: text) = afterTrivia text := by
  rw [afterTrivia, skipTrivia, if_neg (by decide), if_pos blank, afterTrivia]

theorem afterTrivia_hash (text : List Char) : afterTrivia ('#' :: text) = skipTrivia true text := by
  rw [afterTrivia, skipTrivia, if_neg (by decide), if_neg (by decide), if_pos rfl]

theorem afterTrivia_cons {c : Char} (noBlank : Text.isBlank c = false) (noHash : c ≠ '#')
    (text : List Char) : afterTrivia (c :: text) = c :: text := by
  rw [afterTrivia, skipTrivia, if_neg (by decide), if_neg (by rw [noBlank]; decide), if_neg noHash]

/-- **Trivia that the grammar has passed over makes no difference to what follows trivia.** -/
theorem Trivia.afterTrivia_eq {text rest : List Char} (h : Trivia text rest) :
    afterTrivia text = afterTrivia rest := by
  induction h with
  | none => rfl
  | blank blank _ ih => rw [afterTrivia_blank blank, ih]
  | comment oneLine _ ih =>
    rw [afterTrivia_hash, skipTrivia_line oneLine]
    exact ih
  | lastComment oneLine =>
    rw [afterTrivia_hash, skipTrivia_lastLine oneLine, afterTrivia, skipTrivia]

theorem trivia_afterTrivia (text : List Char) : Trivia text (afterTrivia text) := by
  induction hn : text.length using Nat.strongRecOn generalizing text with
  | ind n ih =>
    subst hn
    cases text with
    | nil => exact .none []
    | cons c text =>
      by_cases blank : Text.isBlank c = true
      · rw [afterTrivia_blank blank]
        exact .blank blank (ih text.length (Nat.lt_succ_self _) text rfl)
      by_cases hash : c = '#'
      · subst hash
        rw [afterTrivia_hash]
        by_cases ends : '\n' ∈ text
        · obtain ⟨line, rest, rfl, oneLine⟩ := List.eq_append_cons_of_mem ends
          rw [skipTrivia_line oneLine]
          refine .comment oneLine (ih rest.length ?_ rest rfl)
          simp only [List.length_cons, List.length_append]
          omega
        · rw [skipTrivia_lastLine ends]
          exact .lastComment ends
      · rw [afterTrivia_cons (Bool.eq_false_iff.mpr blank) hash]
        exact .none _

/-- Trivia ends where `afterTrivia` says, if nothing else of it follows. -/
theorem Trivia.eq_afterTrivia {text rest : List Char} (h : Trivia text rest)
    (ends : afterTrivia rest = rest) : afterTrivia text = rest := by
  rw [h.afterTrivia_eq, ends]

/-! ### What may stand behind a piece -/

/-- The characters that part the pieces of a container or end it. -/
def separators : List Char := [',', ':', ']', ')', '\x7d']

/-- Behind trivia the text ends, or a separator or a closing bracket stands. -/
def Delimited (rest : List Char) : Prop :=
  ∀ c ∈ (afterTrivia rest).head?, c ∈ separators

theorem afterTrivia_separator {c : Char} (separates : c ∈ separators) (text : List Char) :
    afterTrivia (c :: text) = c :: text := by
  have properties : ∀ d ∈ separators, Text.isBlank d = false ∧ d ≠ '#' :=
    List.all_iff_forall_prop.mp (by decide)
  exact afterTrivia_cons (properties c separates).1 (properties c separates).2 text

theorem Trivia.eq_separator {text rest : List Char} {c : Char} (h : Trivia text (c :: rest))
    (separates : c ∈ separators) : afterTrivia text = c :: rest :=
  h.eq_afterTrivia (afterTrivia_separator separates rest)

theorem Trivia.delimited {text rest : List Char} {c : Char} (h : Trivia text (c :: rest))
    (separates : c ∈ separators) : Delimited text := by
  intro d hd
  rw [h.eq_separator separates, List.head?_cons, Option.mem_some_iff] at hd
  exact hd ▸ separates

theorem Trivia.delimited_end {text : List Char} (h : Trivia text []) : Delimited text := by
  intro c hc
  rw [h.eq_afterTrivia rfl] at hc
  cases hc

/-- The code points of white space. -/
def blankCodes : List Nat :=
  [0x20, 0x85, 0xa0, 0x1680, 0x2028, 0x2029, 0x202f, 0x205f, 0x3000, 0x9, 0xa, 0xb, 0xc, 0xd,
    0x2000, 0x2001, 0x2002, 0x2003, 0x2004, 0x2005, 0x2006, 0x2007, 0x2008, 0x2009, 0x200a]

theorem toNat_mem_blankCodes {c : Char} (blank : Text.isBlank c = true) :
    c.toNat ∈ blankCodes := by
  simp only [Text.isBlank, Bool.or_eq_true, Bool.and_eq_true, decide_eq_true_eq, Char.ext_iff,
    Char.le_def, UInt32.le_iff_toNat_le, ← UInt32.toNat_inj] at blank
  simp only [blankCodes, List.mem_cons, List.not_mem_nil, or_false, Char.toNat]
  simp only [Char.reduceVal, UInt32.reduceToNat] at blank
  omega

theorem isWordCharacter_blank {c : Char} (blank : Text.isBlank c = true) :
    isWordCharacter c = false := by
  have codes : ∀ n ∈ blankCodes, isWordCharacter (Char.ofNat n) = false := by decide +kernel
  rw [← Char.ofNat_toNat c]
  exact codes c.toNat (toNat_mem_blankCodes blank)

/-- **What parts pieces belongs to none of them**: right behind a piece stands neither a point nor a
character of a word. -/
theorem Delimited.head {rest : List Char} (h : Delimited rest) :
    ∀ c ∈ rest.head?, isWordCharacter c = false ∧ c ≠ '.' := by
  intro c hc
  cases rest with
  | nil => cases hc
  | cons d rest =>
    obtain rfl : d = c := Option.some.inj hc
    by_cases blank : Text.isBlank d = true
    · refine ⟨isWordCharacter_blank blank, ?_⟩
      rintro rfl
      exact absurd blank (by decide)
    by_cases hash : d = '#'
    · subst hash
      decide
    · have separates : d ∈ separators := by
        refine h d ?_
        rw [afterTrivia_cons (Bool.eq_false_iff.mpr blank) hash]
        rfl
      have properties : ∀ e ∈ separators, isWordCharacter e = false ∧ e ≠ '.' :=
        List.all_iff_forall_prop.mp (by decide)
      exact properties d separates

end DumpDigest.Literal
