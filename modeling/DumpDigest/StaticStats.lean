import DumpDigest.Distribution.Tally
import DumpDigest.Value.Field

/-! # Static stats

A static summary of one benchmark, named by the stem of its file. Each of its fields is a
distribution over the benchmark's modules.
-/

namespace DumpDigest

/-- The static summary of a benchmark. -/
structure StaticStats where
  name : String
  record : Record

/-- A number for each kind of annotation. -/
structure AnnotationTotals where
  groupMember : Int64
  groupDeclaration : Int64
  nonCommunicator : Int64
  inlining : Int64
  moduleMember : Int64
  deriving DecidableEq

namespace AnnotationTotals

/-- The totals in the order of the reports' columns. -/
def toList (totals : AnnotationTotals) : List Int64 :=
  [totals.groupMember, totals.groupDeclaration, totals.nonCommunicator, totals.inlining,
    totals.moduleMember]

/-- All annotations. -/
def sum (totals : AnnotationTotals) : Int64 :=
  totals.groupMember + totals.groupDeclaration + totals.nonCommunicator + totals.inlining +
    totals.moduleMember

end AnnotationTotals

namespace StaticStats

/-- A field of the summary. -/
def histogram (key : String) (stats : StaticStats) : Except FieldError Distribution :=
  stats.record.distribution key

def methods : StaticStats → Except FieldError Distribution :=
  histogram "Total methods"

def inlinedMethods : StaticStats → Except FieldError Distribution :=
  histogram "Inlined methods"

def communicationGroups : StaticStats → Except FieldError Distribution :=
  histogram "Communication groups"

def interfaceGroups : StaticStats → Except FieldError Distribution :=
  histogram "Interface groups"

def groupMemberAnnotations : StaticStats → Except FieldError Distribution :=
  histogram "Group membership annotations"

def groupDeclarationAnnotations : StaticStats → Except FieldError Distribution :=
  histogram "Group declaration annotations"

def nonCommunicatorAnnotations : StaticStats → Except FieldError Distribution :=
  histogram "Non-communicator annotations"

def inlineAnnotations : StaticStats → Except FieldError Distribution :=
  histogram "Inline annotations"

def moduleMemberAnnotations : StaticStats → Except FieldError Distribution :=
  histogram "Module membership annotations"

/-- The weighted total of a field. -/
def total (field : StaticStats → Except FieldError Distribution) (stats : StaticStats) :
    Except FieldError Int64 := do
  let counts ← field stats
  return distributionTotal [counts]

/-- The annotations of each kind. -/
def annotationTotals (stats : StaticStats) : Except FieldError AnnotationTotals := do
  let groupMember ← stats.total groupMemberAnnotations
  let groupDeclaration ← stats.total groupDeclarationAnnotations
  let nonCommunicator ← stats.total nonCommunicatorAnnotations
  let inlining ← stats.total inlineAnnotations
  let moduleMember ← stats.total moduleMemberAnnotations
  return ⟨groupMember, groupDeclaration, nonCommunicator, inlining, moduleMember⟩

/-- All annotations of the benchmark, summed kind by kind. -/
def annotationTotal (stats : StaticStats) : Except FieldError Int64 :=
  (fun totals => totals.toList.foldl (· + ·) 0) <$> stats.annotationTotals

end StaticStats

end DumpDigest
