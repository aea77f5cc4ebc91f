import DumpDigest.Proofs.Grouping
import DumpDigest.Proofs.Literal.Displayed
import DumpDigest.Proofs.Profile.Shape

/-!
# Runs of one configuration

The configuration of a run holds the text of every option (`find?_configuration`), so that two runs
have one configuration if their options have the same keys with the same texts, whatever the values
are: a number and a string that shows it are one option value (`number_and_text_together`).

Where the values can be told apart by their texts, the configuration stands for the options
themselves (`configuration_eq_iff_options`).  `ToldApart` holds of strings, which is what options
are, and of bare values.

`grouped_by_texts` is the main result.
-/

namespace DumpDigest

/-- Two values are both strings, or both bare. -/
inductive ToldApart : Value → Value → Prop
  | strings (first second : String) : ToldApart (.string first) (.string second)
  | bare {first second : Value} (here : first.Bare) (there : second.Bare) : ToldApart first second

theorem ToldApart.display_eq_iff {first second : Value} (h : ToldApart first second) :
    first.display = second.display ↔ first = second := by
  constructor
  · intro same
    cases h with
    | strings first second => exact congrArg Value.string same
    | bare here there => exact here.eq_of_display there same
  · exact congrArg Value.display

namespace Profile

variable {first second : Profile}

theorem find?_configuration (profile : Profile) (key : String) :
    profile.configuration.find? key = (profile.options.find? key).map Value.display := by
  rw [configuration, SortedMap.find?_ofList, ← List.map_reverse, Literal.lookup_map_snd,
    ← Ascending.find?_eq_lookup]

/-- **Two runs have one configuration** if their options have the same keys and texts. -/
theorem configuration_eq_iff :
    first.configuration = second.configuration ↔
      ∀ key, (first.options.find? key).map Value.display =
        (second.options.find? key).map Value.display := by
  simp only [← find?_configuration]
  exact ⟨fun same key => by rw [same], fun same => Ascending.ext_find? same⟩

/-- **Options told apart by their texts** are known by the configuration. -/
theorem configuration_eq_iff_options
    (told : ∀ key value other, first.options.find? key = some value →
      second.options.find? key = some other → ToldApart value other) :
    first.configuration = second.configuration ↔ first.options = second.options := by
  rw [configuration_eq_iff]
  constructor
  · intro same
    refine Ascending.ext_find? fun key => ?_
    have texts := same key
    cases here : first.options.find? key with
    | none =>
      rw [here, Option.map_none, eq_comm, Option.map_eq_none_iff] at texts
      exact texts.symm
    | some value =>
      rw [here, Option.map_some, eq_comm, Option.map_eq_some_iff] at texts
      obtain ⟨other, there, shown⟩ := texts
      rw [there, (told key value other here there).display_eq_iff.mp shown.symm]
  · intro same key
    rw [same]

end Profile

/-- Two runs are in one group. -/
def Together (groups : List (OptionFilter × List Profile)) (first second : Profile) : Prop :=
  ∃ group ∈ groups, first ∈ group.2 ∧ second ∈ group.2

/-- **Runs are grouped by the texts of their options.**  The groups ascend by configuration, each
run is in one of them, and the runs of a group keep their order.  Two runs are in one group exactly
if their options have the same keys and under each key the same text; if the values under each key
are both strings or both bare, exactly if their options are the same. -/
theorem grouped_by_texts (profiles : List Profile) :
    StablyGrouped Profile.configuration profiles (byConfiguration profiles) ∧
    (∀ profile ∈ profiles, ∃! group, group ∈ byConfiguration profiles ∧ profile ∈ group.2) ∧
    ∀ first ∈ profiles, ∀ second ∈ profiles,
      (Together (byConfiguration profiles) first second ↔
        ∀ key, (first.options.find? key).map Value.display =
          (second.options.find? key).map Value.display) ∧
      ((∀ key value other, first.options.find? key = some value →
          second.options.find? key = some other → ToldApart value other) →
        (Together (byConfiguration profiles) first second ↔ first.options = second.options)) := by
  refine ⟨stablyGrouped_partition _ _, fun profile member => existsUnique_group member, ?_⟩
  intro first here second there
  have together : Together (byConfiguration profiles) first second ↔
      first.configuration = second.configuration := together_iff here there
  exact ⟨together.trans Profile.configuration_eq_iff,
    fun told => together.trans (Profile.configuration_eq_iff_options told)⟩

/-- The record of a run with one option besides its main class. -/
def levelRecord (level : Value) : Record :=
  .ofList [("options", .record
    (SortedMap.ofList [("mainClass", .string "Crypt"), ("level", level)]))]

/-- The run of that record. -/
def levelRun (level : Value) : Profile :=
  .completed (levelRecord level)
    (SortedMap.ofList [("mainClass", .string "Crypt"), ("level", level)]) "Crypt" ⟨"Crypt-4.py"⟩

theorem find?_levelRun (level : Value) (key : String) :
    (levelRun level).options.find? key =
      if key = "mainClass" then some (.string "Crypt")
      else if key = "level" then some level else none := by
  show (SortedMap.insert (.ofList [("mainClass", .string "Crypt"), ("level", level)])
    "mainClass" (.string "Crypt")).find? key = _
  by_cases main : key = "mainClass"
  · rw [main, SortedMap.find?_insert_self, if_pos rfl]
  · rw [SortedMap.find?_insert_of_ne _ _ main, SortedMap.find?_ofList, if_neg main]
    by_cases leveled : key = "level"
    · rw [leveled, if_pos rfl]
      rfl
    · rw [if_neg leveled, List.lookup_eq_none_iff]
      simp [main, leveled]

/-- A list that holds one number. -/
def oneInList : Value := .list [.int 1]

/-- A distribution that counts the number once. -/
def oneCounted : Value := .distribution (.cons 1 1 trivial .nil)

theorem list_and_counts_apart :
    ToldApart oneInList oneCounted ∧
      ¬ Together (byConfiguration [levelRun oneInList, levelRun oneCounted])
        (levelRun oneInList) (levelRun oneCounted) := by
  have apart : ToldApart oneInList oneCounted := by
    refine .bare (fun part inside => ?_) fun part inside => ?_
    · simp only [oneInList, Value.parts, Value.itemsParts, List.mem_cons, List.not_mem_nil,
        or_false, List.append_nil] at inside
      rcases inside with rfl | rfl
      · exact .list _
      · exact .int 1
    · simp only [oneCounted, Value.parts, List.mem_singleton] at inside
      subst inside
      exact .distribution ⟨by decide, List.forall_mem_singleton.mpr (by decide)⟩
  obtain ⟨-, -, groups⟩ := grouped_by_texts [levelRun oneInList, levelRun oneCounted]
  obtain ⟨-, same⟩ := groups _ List.mem_cons_self _ (List.mem_cons_of_mem _ List.mem_cons_self)
  refine ⟨apart, fun together => ?_⟩
  have options := (same ?_).mp together
  · have level := congrArg (Ascending.find? "level") options
    rw [find?_levelRun, find?_levelRun] at level
    cases level
  · intro key value other here there
    rw [find?_levelRun] at here there
    split at here
    next main =>
      rw [if_pos main] at there
      cases here
      cases there
      exact .strings _ _
    next main =>
      rw [if_neg main] at there
      split at here
      next level =>
        rw [if_pos level] at there
        cases here
        cases there
        exact apart
      next => cases here

/-- **A number and a string that shows it count as one configuration**, although the options
differ. -/
theorem number_and_text_together :
    Profile.ofRecord (levelRecord (.int 1)) ⟨"Crypt-4.py"⟩ "Crypt-4.py" = .ok (levelRun (.int 1)) ∧
    Profile.ofRecord (levelRecord (.string "1")) ⟨"Crypt-4.py"⟩ "Crypt-4.py" =
      .ok (levelRun (.string "1")) ∧
    Together (byConfiguration [levelRun (.int 1), levelRun (.string "1")])
      (levelRun (.int 1)) (levelRun (.string "1")) ∧
    (levelRun (.int 1)).options ≠ (levelRun (.string "1")).options := by
  refine ⟨rfl, rfl, ?_, fun same => ?_⟩
  · have texts : (levelRun (.int 1)).configuration = (levelRun (.string "1")).configuration := rfl
    exact (together_iff List.mem_cons_self (List.mem_cons_of_mem _ List.mem_cons_self)).mpr texts
  · have level := congrArg (Ascending.find? "level") same
    cases level

end DumpDigest
