import DumpDigest.Files.Path
import DumpDigest.Value.Field

/-! # Why a report cannot be computed

A field of a run or a summary cannot be read, a denominator is zero, or a group has no runs to take
a maximum of. The last two name what was being computed.
-/

namespace DumpDigest

/-- The denominators that a report may find to be zero. -/
inductive Quantity where
  | rate (name : String) (source : Path)
  | cacheLookups (benchmark mode : String)
  | checks (label : String)
  | baseline (measure benchmark : String)
  | modules
  | methods
  | methodsOf (benchmark : String)
  deriving DecidableEq

/-- The words for a quantity in messages. -/
def Quantity.text : Quantity → String
  | rate name source => name ++ " of " ++ source.text
  | cacheLookups benchmark mode => "array cache lookups of " ++ benchmark ++ " (" ++ mode ++ ")"
  | checks label => "checks of " ++ label
  | baseline measure benchmark => "baseline " ++ measure ++ " of " ++ benchmark
  | modules => "modules"
  | methods => "methods"
  | methodsOf benchmark => "methods of " ++ benchmark

/-- The groups of runs that a report may find to be empty. -/
inductive RunGroup where
  | all (benchmark : String)
  | arrayStates (benchmark : String)
  | indexStates (benchmark : String)
  deriving DecidableEq

/-- The words for a group of runs in messages. -/
def RunGroup.text : RunGroup → String
  | all benchmark => "runs of " ++ benchmark
  | arrayStates benchmark => "array-state runs of " ++ benchmark
  | indexStates benchmark => "index-state runs of " ++ benchmark

/-- Why a report cannot be computed. -/
inductive ReportError where
  | field (error : FieldError)
  | zeroDenominator (quantity : Quantity)
  | emptyGroup (group : RunGroup)
  deriving DecidableEq

/-- The message of a report error. -/
def ReportError.message : ReportError → String
  | field error => error.message
  | zeroDenominator quantity => "Division by zero computing " ++ quantity.text
  | emptyGroup group => "No profiles to aggregate for " ++ group.text

instance : MonadLift (Except FieldError) (Except ReportError) where
  monadLift := Except.mapError .field

end DumpDigest
