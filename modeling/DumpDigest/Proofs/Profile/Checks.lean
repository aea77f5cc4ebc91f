import DumpDigest.Proofs.MachineIntegers
import DumpDigest.Proofs.Profile.Counters

/-!
# Checks by the way they were resolved

A check finds no communication, or it is resolved in the fast memo, in the slow memo, or by a walk
of the stack.  Three of these four numbers are not counted but computed, as differences of counters
that telescope: together they are all checks (`AddUp`), in every run whose counters can be read and
whose differences stay within 64 bits (`InRange`).  Where a difference does not, the four numbers
are still congruent to all checks modulo `2 ^ 64`.  `exists_read_iff` says both.
-/

namespace DumpDigest

open Result

/-- The counters of checks: all checks, and those resolved in each way. -/
inductive CheckCounter where
  | all
  | threadLocal
  | fastMemo
  | slowMemo
  | stackWalk

namespace CheckCounter

/-- The value of a counter in a run. -/
def read : CheckCounter → Profile → Except FieldError Int64
  | all => Profile.checks
  | threadLocal => Profile.threadLocalHits
  | fastMemo => Profile.fastMemoHits
  | slowMemo => Profile.slowMemoHits
  | stackWalk => Profile.stackWalks

theorem forall_iff {p : CheckCounter → Prop} :
    (∀ counter, p counter) ↔
      p all ∧ p threadLocal ∧ p fastMemo ∧ p slowMemo ∧ p stackWalk := by
  constructor
  · exact fun each => ⟨each _, each _, each _, each _, each _⟩
  · rintro ⟨_, _, _, _, _⟩ counter
    cases counter <;> assumption

/-- The checks that are resolved in one of the four ways. -/
def resolved (counts : CheckCounter → Int) : Int :=
  counts threadLocal + counts fastMemo + counts slowMemo + counts stackWalk

/-- Whether the checks resolved in each way are all checks. -/
def AddUp (counts : CheckCounter → Int) : Prop :=
  resolved counts = counts all

instance (counts : CheckCounter → Int) : Decidable (AddUp counts) :=
  inferInstanceAs (Decidable (resolved counts = counts all))

/-- The fields that the counters are computed from. -/
def fields : List String :=
  ["All field reads", "All array reads", "All acquires"] ++
    ["Communicating field reads", "Communicating array reads", "Communicating acquires"] ++
    ["Communicating field read slow path", "Communicating array read slow path",
      "Communicating acquire slow path"] ++
    ["Full stack walks"]

/-- Whether the differences that counters of a run are computed as stay within 64 bits. -/
def InRange (profile : Profile) : Prop :=
  ∀ checks ∈ profile.checks.toOption, ∀ communications ∈ profile.communications.toOption,
    ∀ slow ∈ profile.slowCommunications.toOption, ∀ walks ∈ profile.stackWalks.toOption,
      FitsInt64 (checks.toInt - communications.toInt) ∧
        FitsInt64 (communications.toInt - slow.toInt) ∧ FitsInt64 (slow.toInt - walks.toInt)

instance (profile : Profile) : Decidable (InRange profile) :=
  inferInstanceAs (Decidable (∀ _ ∈ profile.checks.toOption, ∀ _ ∈ profile.communications.toOption,
    ∀ _ ∈ profile.slowCommunications.toOption, ∀ _ ∈ profile.stackWalks.toOption, _ ∧ _ ∧ _))

variable {profile : Profile} {counts : CheckCounter → Int64}

theorem difference_eq_ok_iff {ε : Type} {first second : Except ε Int64} {n : Int64} :
    (do let one ← first; let other ← second; return one - other) = .ok n ↔
      ∃ one other, first = .ok one ∧ second = .ok other ∧ one - other = n := by
  simp only [bind_eq_ok_iff]
  constructor
  · rintro ⟨one, here, other, there, done⟩
    exact ⟨one, other, here, there, Except.ok.inj done⟩
  · rintro ⟨one, other, here, there, rfl⟩
    exact ⟨one, here, other, there, rfl⟩

/-- One number for each counter. -/
def numbers {α : Type} (allIs threadLocalIs fastMemoIs slowMemoIs stackWalkIs : α) :
    CheckCounter → α
  | all => allIs
  | threadLocal => threadLocalIs
  | fastMemo => fastMemoIs
  | slowMemo => slowMemoIs
  | stackWalk => stackWalkIs

/-- The counters that the others are differences of. -/
structure Sources (profile : Profile) (checks communications slow walks : Int64) : Prop where
  checks : profile.checks = .ok checks
  communications : profile.communications = .ok communications
  slow : profile.slowCommunications = .ok slow
  walks : profile.stackWalks = .ok walks

theorem exists_sources_iff :
    (∃ checks communications slow walks, Sources profile checks communications slow walks) ↔
      ∀ key ∈ fields, profile.HasCounter key := by
  simp only [fields, List.forall_mem_append, List.forall_mem_singleton]
  constructor
  · rintro ⟨checks, communications, slow, walks, sources⟩
    exact ⟨⟨⟨Profile.exists_total_iff.mp ⟨checks, sources.checks⟩,
      Profile.exists_total_iff.mp ⟨communications, sources.communications⟩⟩,
      Profile.exists_total_iff.mp ⟨slow, sources.slow⟩⟩,
      Profile.exists_counter_iff.mp ⟨walks, sources.walks⟩⟩
  · rintro ⟨⟨⟨one, two⟩, three⟩, four⟩
    obtain ⟨checks, hasChecks⟩ := Profile.exists_total_iff.mpr one
    obtain ⟨communications, hasCommunications⟩ := Profile.exists_total_iff.mpr two
    obtain ⟨slow, hasSlow⟩ := Profile.exists_total_iff.mpr three
    obtain ⟨walks, hasWalks⟩ := Profile.exists_counter_iff.mpr four
    exact ⟨checks, communications, slow, walks, hasChecks, hasCommunications, hasSlow, hasWalks⟩

/-- **The counters are what their sources make of them.** -/
theorem read_iff_sources :
    (∀ counter : CheckCounter, counter.read profile = .ok (counts counter)) ↔
      ∃ checks communications slow walks, Sources profile checks communications slow walks ∧
        counts = numbers checks (checks - communications) (communications - slow)
          (slow - walks) walks := by
  constructor
  · intro read
    obtain ⟨checks, communications, hasChecks, hasCommunications, locals⟩ :=
      difference_eq_ok_iff.mp (read threadLocal)
    obtain ⟨communications', slow, hasCommunications', hasSlow, fast⟩ :=
      difference_eq_ok_iff.mp (read fastMemo)
    obtain ⟨slow', walks, hasSlow', hasWalks, slowly⟩ := difference_eq_ok_iff.mp (read slowMemo)
    obtain rfl := Except.ok.inj (hasCommunications.symm.trans hasCommunications')
    obtain rfl := Except.ok.inj (hasSlow.symm.trans hasSlow')
    have allIs : checks = counts all := Except.ok.inj (hasChecks.symm.trans (read all))
    have walksAre : walks = counts stackWalk :=
      Except.ok.inj (hasWalks.symm.trans (read stackWalk))
    refine ⟨checks, communications, slow, walks,
      ⟨hasChecks, hasCommunications, hasSlow, hasWalks⟩, ?_⟩
    funext counter
    cases counter with
    | all => exact allIs.symm
    | threadLocal => exact locals.symm
    | fastMemo => exact fast.symm
    | slowMemo => exact slowly.symm
    | stackWalk => exact walksAre.symm
  · rintro ⟨checks, communications, slow, walks, sources, rfl⟩ counter
    cases counter with
    | all => exact sources.checks
    | threadLocal =>
      exact difference_eq_ok_iff.mpr ⟨_, _, sources.checks, sources.communications, rfl⟩
    | fastMemo => exact difference_eq_ok_iff.mpr ⟨_, _, sources.communications, sources.slow, rfl⟩
    | slowMemo => exact difference_eq_ok_iff.mpr ⟨_, _, sources.slow, sources.walks, rfl⟩
    | stackWalk => exact sources.walks

/-- The checks resolved in each way are congruent to all checks, whatever the differences. -/
theorem resolved_modEq_of_read
    (read : ∀ counter : CheckCounter, counter.read profile = .ok (counts counter)) :
    resolved (fun counter => (counts counter).toInt) ≡ (counts all).toInt [ZMOD 2 ^ 64] := by
  obtain ⟨checks, communications, slow, walks, -, rfl⟩ := read_iff_sources.mp read
  have telescope : checks - communications + (communications - slow) + (slow - walks) + walks =
      checks := by grind
  rw [← ofInt_eq_ofInt_iff]
  simp only [resolved, numbers, Int64.ofInt_add, Int64.ofInt_toInt, telescope]

/-- **The checks resolved in each way are all checks** if no difference leaves 64 bits. -/
theorem addUp_of_read (inRange : InRange profile)
    (read : ∀ counter : CheckCounter, counter.read profile = .ok (counts counter)) :
    AddUp fun counter => (counts counter).toInt := by
  obtain ⟨checks, communications, slow, walks, sources, rfl⟩ := read_iff_sources.mp read
  obtain ⟨locals, fast, slowly⟩ := inRange checks (toOption_eq_some_iff.mpr sources.checks)
    communications (toOption_eq_some_iff.mpr sources.communications)
    slow (toOption_eq_some_iff.mpr sources.slow) walks (toOption_eq_some_iff.mpr sources.walks)
  simp only [AddUp, resolved, numbers, toInt_sub_of_fits locals, toInt_sub_of_fits fast,
    toInt_sub_of_fits slowly]
  omega

/-- **The counters of checks can be read** when their fields can, and then the checks resolved in
each way are all checks: modulo `2 ^ 64` in any case, and exactly if no difference leaves
64 bits. -/
theorem exists_read_iff :
    (∀ key ∈ fields, profile.HasCounter key) ↔
      ∃ counts : CheckCounter → Int64,
        (∀ counter : CheckCounter, counter.read profile = .ok (counts counter)) ∧
        resolved (fun counter => (counts counter).toInt) ≡ (counts all).toInt [ZMOD 2 ^ 64] ∧
        (InRange profile → AddUp fun counter => (counts counter).toInt) := by
  rw [← exists_sources_iff]
  constructor
  · rintro ⟨_, _, _, _, sources⟩
    have read := read_iff_sources.mpr ⟨_, _, _, _, sources, rfl⟩
    exact ⟨_, read, resolved_modEq_of_read read, fun inRange => addUp_of_read inRange read⟩
  · rintro ⟨counts, read, -⟩
    obtain ⟨checks, communications, slow, walks, sources, -⟩ := read_iff_sources.mp read
    exact ⟨checks, communications, slow, walks, sources⟩

end CheckCounter

end DumpDigest
