import DumpDigest.Profile.Benchmark
import DumpDigest.Proofs.OptionFilter.Matching
import DumpDigest.Proofs.Text.Front
import DumpDigest.Proofs.Value.Field

/-!
# Thread counts in the names of runs

A run has a thread count if its suffix names a part, which is what stands between the first two
hyphens (`Profile.suffixPart_eq_ok_iff`), and this part is the text of a number
(`readUInt32_eq_ok_iff`); `Profile.threadCount_eq_ok_iff` puts the two together.

A run is asked for its thread count in two ways.  `runsWith` compares the suffix of its file names
with the text of a number, and `threadCount` cuts the suffix at its hyphens and reads a part.  They
agree, because the text of a number has no hyphen in it and reads back as the number:
`threadCount_of_runsWith`.
-/

namespace DumpDigest

open Result

/-! ### The text of a number -/

theorem le_ofDigitChars (value : Nat) (digits : List Char) :
    value ≤ Nat.ofDigitChars 10 digits value := by
  have power : 0 < 10 ^ digits.length := Nat.pow_pos (by decide)
  calc value
    _ ≤ 10 ^ digits.length * value := Nat.le_mul_of_pos_left value power
    _ ≤ 10 ^ digits.length * value + Nat.ofDigitChars 10 digits 0 := Nat.le_add_right _ _
    _ = Nat.ofDigitChars 10 digits value := Nat.ofDigitChars_eq_ofDigitChars_zero.symm

theorem readDigits_eq_ok_iff {value : Nat} {digits : List Char} {number : UInt32}
    (small : value < UInt32.size) :
    readDigits value digits = .ok number ↔
      (∀ c ∈ digits, c.isDigit = true) ∧ Nat.ofDigitChars 10 digits value = number.toNat := by
  induction digits generalizing value with
  | nil =>
    have same : UInt32.ofNat value = number ↔ value = number.toNat := by
      rw [← UInt32.toNat_inj, UInt32.toNat_ofNat_of_lt' small]
    simpa [readDigits] using same
  | cons c digits ih =>
    rw [Nat.ofDigitChars_cons, List.forall_mem_cons, readDigits]
    dsimp only
    generalize 10 * value + (c.toNat - '0'.toNat) = grown
    cases c.isDigit with
    | false => simp
    | true =>
      by_cases fits : grown < UInt32.size
      · simp [fits, ih fits]
      · -- Further digits do not lead back into the bound.
        have grows := le_ofDigitChars grown digits
        have bound := number.toNat_lt
        have beyond : Nat.ofDigitChars 10 digits grown ≠ number.toNat := by
          have size : UInt32.size = 2 ^ 32 := rfl
          omega
        simp [fits, beyond]

/-- Whether a text is that of a number: digits, of which there are some, with or without a plus sign
in front of them. -/
def IsCountText (text : List Char) (number : UInt32) : Prop :=
  ∃ digits, (text = digits ∨ text = '+' :: digits) ∧ digits ≠ [] ∧
    (∀ c ∈ digits, c.isDigit = true) ∧ Nat.ofDigitChars 10 digits 0 = number.toNat

/-- **A number is read from its texts** and from no others. -/
theorem readUInt32_eq_ok_iff {text : String} {number : UInt32} :
    readUInt32 text = .ok number ↔ IsCountText text.toList number := by
  have read : ∀ digits, readDigits 0 digits = .ok number ↔
      (∀ c ∈ digits, c.isDigit = true) ∧ Nat.ofDigitChars 10 digits 0 = number.toNat :=
    fun _ => readDigits_eq_ok_iff (by decide)
  rw [readUInt32]
  split
  · next is => simp [IsCountText, is]
  · next is =>
    rw [is]
    constructor
    · intro impossible
      cases impossible
    · rintro ⟨digits, rfl | signed, some, all, -⟩
      · exact absurd (all '+' List.mem_cons_self) (by decide)
      · exact absurd (List.cons.inj signed).2.symm some
  · next digits some is =>
    rw [is, read]
    constructor
    · rintro ⟨all, value⟩
      exact ⟨digits, .inr rfl, some, all, value⟩
    · rintro ⟨_, rfl | signed, -, all, value⟩
      · exact absurd (all '+' List.mem_cons_self) (by decide)
      · rw [(List.cons.inj signed).2]
        exact ⟨all, value⟩
  · next some _ unsigned =>
    rw [read]
    constructor
    · rintro ⟨all, value⟩
      exact ⟨_, .inl rfl, some, all, value⟩
    · rintro ⟨digits, rfl | signed, -, all, value⟩
      · exact ⟨all, value⟩
      · exact absurd signed (unsigned digits)

theorem readUInt32_repr (number : UInt32) : readUInt32 number.toNat.repr = .ok number := by
  rw [readUInt32_eq_ok_iff, Nat.toList_repr]
  have digits : ∀ c ∈ Nat.toDigits 10 number.toNat, c.isDigit = true :=
    fun c member => Nat.isDigit_of_mem_toDigits (by decide) (by decide) member
  exact ⟨_, .inl rfl, Nat.toDigits_ne_nil, digits, Nat.ofDigitChars_ten_toDigits⟩

/-! ### The suffix of a run -/

/-- The second part of a text stands between the first hyphen and the next one or the end. -/
theorem secondPart?_eq_some_iff {text part : String} :
    secondPart? text = some part ↔
      ∃ before behind, text.toList = before ++ '-' :: behind ∧ '-' ∉ before ∧
        Text.Front '-' behind part.toList := by
  rw [secondPart?]
  by_cases hyphen : '-' ∈ text.toList
  · obtain ⟨before, behind, is, first⟩ := List.eq_append_cons_of_mem hyphen
    rw [(Text.parts_of_split is first).2]
    simp only [Option.some.injEq, ← String.toList_inj, String.toList_ofList,
      Text.takeWhile_eq_iff_front]
    constructor
    · intro front
      exact ⟨before, behind, is, first, front⟩
    · rintro ⟨_, _, is', first', front⟩
      -- A text has one first hyphen.
      have same := (Text.parts_of_split is first).2.symm.trans (Text.parts_of_split is' first').2
      rwa [(List.cons.inj same).2]
  · have none : text.toList.dropWhile (· ≠ '-') = [] :=
      List.dropWhile_eq_nil_iff.mpr (Text.differs_of_not_mem hyphen)
    rw [none]
    constructor
    · intro impossible
      cases impossible
    · rintro ⟨before, behind, is, -⟩
      rw [is] at hyphen
      exact absurd (by simp) hyphen

namespace Profile

variable {profile : Profile}

/-- Whether the suffix of a run's file names has this part between its first hyphen and the next one
or the end. -/
def NamesPart (profile : Profile) (part : String) : Prop :=
  ∃ suffix before behind, profile.options.find? suffixOption = some (.string suffix) ∧
    suffix.toList = before ++ '-' :: behind ∧ '-' ∉ before ∧ Text.Front '-' behind part.toList

/-- Whether the suffix of a run's file names has the text of this thread count there. -/
def NamesThreads (profile : Profile) (threads : UInt32) : Prop :=
  ∃ part, profile.NamesPart part ∧ IsCountText part.toList threads

theorem suffixPart_eq_ok_iff {part : String} :
    profile.suffixPart = .ok part ↔ profile.NamesPart part := by
  rw [suffixPart, bind_eq_ok_iff]
  simp only [NamesPart, exists_and_left, ← secondPart?_eq_some_iff, ← Record.string_eq_ok_iff]
  refine exists_congr fun suffix => and_congr_right fun _ => ?_
  cases secondPart? suffix with
  | none => simp [throw, throwThe, MonadExceptOf.throw]
  | some found => simp [pure, Except.pure]

/-- **When a run has a thread count**: its suffix names a part that is the text of a number. -/
theorem threadCount_eq_ok_iff {threads : UInt32} :
    profile.threadCount = .ok threads ↔ profile.NamesThreads threads := by
  have parts : profile.NamesThreads threads ↔
      ∃ part, profile.suffixPart = .ok part ∧ readUInt32 part = .ok threads := by
    simp only [NamesThreads, suffixPart_eq_ok_iff, readUInt32_eq_ok_iff]
  rw [threadCount, bind_eq_ok_iff, parts]
  refine exists_congr fun part => and_congr_right fun _ => ?_
  cases readUInt32 part with
  | error reason => simp [throw, throwThe, MonadExceptOf.throw]
  | ok found => simp [pure, Except.pure]

theorem NamesThreads.unique {threads others : UInt32} (named : profile.NamesThreads threads)
    (named' : profile.NamesThreads others) : threads = others := by
  rw [← threadCount_eq_ok_iff] at named named'
  exact Except.ok.inj (named.symm.trans named')

instance (threads : UInt32) : Decidable (profile.NamesThreads threads) :=
  decidable_of_iff (profile.threadCount.toOption = some threads)
    (toOption_eq_some_iff.trans threadCount_eq_ok_iff)

/-- **A run with a thread count has its text as the second part of its suffix.** -/
theorem suffixPart_of_runsWith {threads : UInt32} (runs : profile.runsWith threads = true) :
    profile.suffixPart = .ok threads.toNat.repr := by
  rw [runsWith] at runs
  split at runs
  · next suffix given =>
    obtain ⟨rest, is⟩ := List.isPrefixOf_iff_prefix.mp runs
    have parted : suffix.toList =
        [] ++ '-' :: (Nat.toDigits 10 threads.toNat ++ '-' :: ("threads".toList ++ rest)) := by
      rw [← is]
      simp [Nat.toList_repr]
    have whole : '-' ∉ Nat.toDigits 10 threads.toNat := fun member =>
      absurd (Nat.isDigit_of_mem_toDigits (by decide) (by decide) member) (by decide)
    refine suffixPart_eq_ok_iff.mpr
      ⟨suffix, [], _, option?_eq_some_iff.mp given, parted, by simp, ?_⟩
    rw [Nat.toList_repr]
    exact ⟨whole, .inr ⟨_, rfl⟩⟩
  · cases runs

theorem threadCount_of_runsWith {threads : UInt32} (runs : profile.runsWith threads = true) :
    profile.threadCount = .ok threads := by
  rw [threadCount, bind_eq_ok_iff]
  refine ⟨threads.toNat.repr, suffixPart_of_runsWith runs, ?_⟩
  rw [readUInt32_repr]
  rfl

end Profile

end DumpDigest
