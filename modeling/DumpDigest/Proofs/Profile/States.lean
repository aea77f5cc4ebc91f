import DumpDigest.Proofs.Grouping
import DumpDigest.Proofs.OptionFilter.Matching
import DumpDigest.Report.Aggregate

/-!
# Runs by how they keep array states

A run keeps one state per array or one per element, and many reports look at the two kinds of runs
separately.  `StateMode` names the kinds; `splitArrayStates_eq` says that the split which reports
make is the one by mode.
-/

namespace DumpDigest

variable {profile : Profile}

/-- Whether a run has one state per array. -/
def arrayStates (profile : Profile) : Bool :=
  profile.shows (wanting "arrayIndexStates" "false")

/-- Whether a run has one state per element. -/
def indexStates (profile : Profile) : Bool :=
  !arrayStates profile

theorem arrayStates_iff :
    arrayStates profile = true ↔ profile.option? "arrayIndexStates" = some "false" :=
  Profile.shows_wanting_iff

theorem indexStates_iff :
    indexStates profile = true ↔ profile.option? "arrayIndexStates" ≠ some "false" := by
  rw [indexStates, Bool.not_eq_true', Bool.eq_false_iff, ne_eq, arrayStates_iff]

/-- The ways in which runs keep the states of arrays. -/
inductive StateMode where
  /-- One state per array. -/
  | array
  /-- One state per element. -/
  | index
  deriving DecidableEq

namespace StateMode

theorem forall_iff {p : StateMode → Prop} : (∀ mode, p mode) ↔ p array ∧ p index := by
  constructor
  · exact fun each => ⟨each _, each _⟩
  · rintro ⟨_, _⟩ mode
    cases mode <;> assumption

/-- The mode of a run. -/
def of (profile : Profile) : StateMode :=
  if arrayStates profile then array else index

/-- The runs of a mode. -/
def runs (mode : StateMode) (profiles : List Profile) : List Profile :=
  profiles.filter fun profile => of profile = mode

theorem mem_runs {mode : StateMode} {profiles : List Profile} :
    profile ∈ mode.runs profiles ↔ profile ∈ profiles ∧ of profile = mode := by
  rw [runs, List.mem_filter, decide_eq_true_eq]

/-- **The split that reports make** is the one by mode. -/
theorem splitArrayStates_eq (profiles : List Profile) :
    splitArrayStates profiles = (array.runs profiles, index.runs profiles) :=
  bisect_eq_filter (by decide) (fun _ => rfl) profiles

end StateMode

end DumpDigest
