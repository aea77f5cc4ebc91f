import DumpDigest.Literal.Parse
import DumpDigest.Proofs.Result

/-!
# Where readers refuse

A fault names its place by what remains there, so it has a place in a text only if this is a suffix
of the text.  `RefusesIn` says so of the result of a reader.  Readers refuse in the text that they
are given; the body of a string is the exception, since a string that does not end is refused at its
opening quote, which stands in front of the body.
-/

namespace DumpDigest.Literal

open Text (Step)
open Decimal (Numeral)
open Result

/-- A refusal, if there is one, is at a place in a text. -/
def RefusesIn {α : Type} (text : List Char) (result : Except Fault α) : Prop :=
  ∀ fault, result = .error fault → fault.rest <:+ text

section RefusesIn

variable {α β : Type} {text : List Char}

theorem refusesIn_ok (value : α) : RefusesIn text (.ok value) := by
  intro fault h
  cases h

theorem refusesIn_error {cause : Cause} {rest : List Char} (inside : rest <:+ text) :
    RefusesIn text (.error ⟨cause, rest⟩ : Except Fault α) := by
  intro fault h
  obtain rfl := Except.error.inj h
  exact inside

theorem RefusesIn.widen {inner : List Char} {result : Except Fault α}
    (refuses : RefusesIn inner result) (inside : inner <:+ text) : RefusesIn text result :=
  fun fault h => (refuses fault h).trans inside

theorem RefusesIn.bind {first : Except Fault α} {next : α → Except Fault β}
    (here : RefusesIn text first)
    (there : ∀ value, first = .ok value → RefusesIn text (next value)) :
    RefusesIn text (first >>= next) := by
  intro fault h
  rcases bind_eq_error_iff.mp h with refused | ⟨value, read, refused⟩
  · exact here fault refused
  · exact there value read fault refused

/-- A reader refuses in whatever text it is given. -/
def Careful (reader : Parser α) : Prop :=
  ∀ text, RefusesIn text (reader text)

end RefusesIn

/-! ### Strings -/

theorem careful_escape : Careful escape := by
  intro text
  unfold escape
  split
  · exact refusesIn_error List.suffix_rfl
  · split
    · exact refusesIn_ok _
    · exact refusesIn_error List.suffix_rfl
  · exact refusesIn_error List.suffix_rfl
  · exact refusesIn_ok _

/-- A string that does not end is refused at its start, anything else in its body. -/
theorem refusesIn_stringBody {start text whole : List Char} (quote : Char)
    (startInside : start <:+ whole) (inside : text <:+ whole) :
    RefusesIn whole (stringBody start quote text) := by
  induction text using stringBody.induct quote with
  | case1 =>
    rw [stringBody]
    exact refusesIn_error startInside
  | case2 text =>
    rw [stringBody, if_pos rfl]
    exact refusesIn_ok _
  | case3 text noQuote =>
    rw [stringBody, if_neg noQuote, if_pos rfl]
    exact refusesIn_error startInside
  | case4 text noQuote noBreak ih =>
    rw [stringBody, if_neg noQuote, if_neg noBreak, if_pos rfl]
    have behind : text <:+ whole := (List.suffix_cons _ _).trans inside
    refine ((careful_escape text).widen behind).bind fun escaped _ => ?_
    exact (ih escaped (escaped.suffix.trans behind)).bind fun _ _ => refusesIn_ok _
  | case5 c text noQuote noBreak noBackslash ih =>
    rw [stringBody, if_neg noQuote, if_neg noBreak, if_neg noBackslash]
    exact (ih ((List.suffix_cons _ _).trans inside)).bind fun _ _ => refusesIn_ok _

theorem refusesIn_strings (quote : Char) (body : List Char) :
    RefusesIn (quote :: body) (strings quote body) := by
  induction hn : body.length using Nat.strongRecOn generalizing quote body with
  | ind n ih =>
    subst hn
    have first := refusesIn_stringBody quote (List.suffix_refl (quote :: body))
      (List.suffix_cons quote body)
    unfold strings
    refine first.bind fun step _ => ?_
    split
    · exact refusesIn_ok _
    · next next rest follows =>
      split
      · have suffix : next :: rest <:+ step.rest := suffix_of_afterTrivia follows
        have shorter : rest.length < body.length := Nat.lt_trans suffix.length_le step.shorter
        have inside : next :: rest <:+ quote :: body :=
          (suffix.trans step.suffix).trans (List.suffix_cons _ _)
        exact ((ih _ shorter next rest rfl).widen inside).bind fun _ _ => refusesIn_ok _
      · exact refusesIn_ok _

/-! ### Numbers and words -/

theorem refusesIn_splitExponent (text : List Char) : RefusesIn text (splitExponent text) := by
  unfold splitExponent
  split
  · exact refusesIn_ok _
  · split
    · dsimp only
      split
      · exact refusesIn_error List.suffix_rfl
      · exact refusesIn_ok _
    · exact refusesIn_ok _

theorem refusesIn_splitNumeral (text : List Char) : RefusesIn text (splitNumeral text) := by
  have behind : (splitFraction (splitDigits (Decimal.splitSign text).2).2).2 <:+ text :=
    ((splitFraction_suffix _).trans (splitDigits_suffix _)).trans (Decimal.splitSign_suffix text)
  unfold splitNumeral
  dsimp only
  split
  · exact refusesIn_error List.suffix_rfl
  · exact ((refusesIn_splitExponent _).widen behind).bind fun _ _ => refusesIn_ok _

theorem refusesIn_splitNumber (text : List Char) : RefusesIn text (splitNumber text) := by
  unfold splitNumber
  refine (refusesIn_splitNumeral text).bind fun parts read => ?_
  have behind : dropLongMark parts.1 parts.2 <:+ text :=
    (dropLongMark_suffix parts.1 parts.2).trans (splitNumeral_shortens read).1
  dsimp only
  split
  · exact refusesIn_error behind
  · split
    · exact refusesIn_error List.suffix_rfl
    · exact refusesIn_ok _

theorem careful_number : Careful number := by
  intro text
  unfold number
  split
  · next fault refused =>
    intro other h
    obtain rfl := Except.error.inj h
    exact refusesIn_splitNumber text fault refused
  · exact refusesIn_ok _

theorem refusesIn_word (first : Char) (behind : List Char) :
    RefusesIn (first :: behind) (word first behind) := by
  unfold word
  dsimp only
  split
  · exact refusesIn_ok _
  · exact refusesIn_ok _
  · exact refusesIn_ok _
  · exact refusesIn_error List.suffix_rfl

theorem careful_scalar : Careful scalar := by
  intro text
  unfold scalar
  split
  · exact refusesIn_error List.suffix_rfl
  · next c rest =>
    split
    · exact (refusesIn_strings c rest).bind fun _ _ => refusesIn_ok _
    · split
      · exact (careful_number _).bind fun _ _ => refusesIn_ok _
      · split
        · exact refusesIn_word c rest
        · exact refusesIn_error List.suffix_rfl

end DumpDigest.Literal
