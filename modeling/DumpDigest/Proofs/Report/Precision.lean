import DumpDigest.Proofs.Grouping
import DumpDigest.Proofs.Profile.Counters
import DumpDigest.Proofs.Profile.ThreadCount
import DumpDigest.Report.Precision

/-!
# The report on precision

Every run outside DaCapo has a row, and every DaCapo benchmark has one, that of its first run.
`precision_reported` says when there is a report, what it shows, and that a further run of a DaCapo
benchmark changes nothing.

The report is collected in one walk that carries the benchmarks seen so far.  `firstRuns` is the
same walk without the rows; `collect_eq_ok_iff` takes the two apart.  A run is met by that walk if
no run in front of it has its benchmark (`mem_firstRuns_iff`), which the induction has to say for
any benchmarks seen before.
-/

namespace DumpDigest

open Result

/-! ### Rows -/

namespace PrecisionRow

/-- The fields that a row counts, and where it has them. -/
def columns : List (String × (PrecisionRow → Int64)) :=
  [("Total comm nodes in run", runNodes), ("Total comm nodes in used specs", specifiedNodes),
    ("Total comm edges in run", runEdges), ("Total comm edges in used specs", specifiedEdges)]

/-- Whether a row is that of a run under a name: each of its numbers is the integer in the field of
the run. -/
def IsOf (name : String) (profile : Profile) (row : PrecisionRow) : Prop :=
  row.benchmark = name ∧
    ∀ column ∈ columns, profile.record.find? column.1 = some (.int (column.2 row))

variable {name : String} {profile : Profile} {row : PrecisionRow}

theorem of_eq_ok_iff : of name profile = .ok row ↔ IsOf name profile row := by
  simp only [of, bind_eq_ok_iff, IsOf, columns, List.forall_mem_cons, List.not_mem_nil,
    IsEmpty.forall_iff, implies_true, and_true, ← Profile.counter_eq_ok_iff]
  constructor
  · rintro ⟨runNodes, first, specifiedNodes, second, runEdges, third, specifiedEdges, fourth, done⟩
    obtain rfl := Except.ok.inj done
    exact ⟨rfl, first, second, third, fourth⟩
  · rintro ⟨rfl, first, second, third, fourth⟩
    exact ⟨_, first, _, second, _, third, _, fourth, rfl⟩

theorem exists_of_iff :
    (∃ row, of name profile = .ok row) ↔ ∀ column ∈ columns, profile.HasCounter column.1 := by
  simp only [of_eq_ok_iff, IsOf, columns, List.forall_mem_cons, List.not_mem_nil,
    IsEmpty.forall_iff, implies_true, and_true, Profile.HasCounter]
  constructor
  · rintro ⟨row, -, first, second, third, fourth⟩
    exact ⟨⟨_, first⟩, ⟨_, second⟩, ⟨_, third⟩, _, fourth⟩
  · rintro ⟨⟨_, first⟩, ⟨_, second⟩, ⟨_, third⟩, _, fourth⟩
    exact ⟨⟨name, _, _, _, _⟩, rfl, first, second, third, fourth⟩

/-- Whether a number is a part in percent of a whole, or zero if the whole is empty. -/
def IsPercent (part whole : Int64) (precision : Float) : Prop :=
  (whole = 0 → precision = 0.0) ∧
    (whole ≠ 0 → precision = Float.ofInt part.toInt / Float.ofInt whole.toInt * 100.0)

theorem isPercent_percent (part whole : Int64) : IsPercent part whole (percent part whole) :=
  ⟨fun empty => if_pos empty, fun nonempty => if_neg nonempty⟩

end PrecisionRow

/-- What rows are ordered by: their name, then the precision of nodes, then that of edges. -/
structure PrecisionKey where
  benchmark : String
  nodes : Int
  edges : Int

instance : Ord PrecisionKey where
  compare := compareLex (compareOn PrecisionKey.benchmark)
    (compareLex (compareOn PrecisionKey.nodes) (compareOn PrecisionKey.edges))

instance : Std.TransOrd PrecisionKey :=
  inferInstanceAs (Std.TransCmp (compareLex (compareOn PrecisionKey.benchmark)
    (compareLex (compareOn PrecisionKey.nodes) (compareOn PrecisionKey.edges))))

namespace PrecisionRow

/-- The key of a row, with the precisions in the order of all floats. -/
def key (row : PrecisionRow) : PrecisionKey :=
  ⟨row.benchmark, Decimal.totalOrderKey row.nodePrecision,
    Decimal.totalOrderKey row.edgePrecision⟩

theorem precedes_eq : precedes = keyLE key :=
  rfl

theorem benchmark_lt_of_keyLE {first second : PrecisionRow}
    (order : keyLE key first second = true) (differ : first.benchmark ≠ second.benchmark) :
    first.benchmark < second.benchmark := by
  have unfolded : keyLE key first second =
      ((compare first.benchmark second.benchmark).then
        ((compare first.key.nodes second.key.nodes).then
          (compare first.key.edges second.key.edges))).isLE := rfl
  refine compareOfLessAndEq_eq_lt.mp (?_ : compare first.benchmark second.benchmark = .lt)
  cases names : compare first.benchmark second.benchmark with
  | lt => rfl
  | eq => exact absurd (Std.LawfulEqCmp.eq_of_compare names) differ
  | gt =>
    rw [unfolded, names] at order
    cases order

end PrecisionRow

/-! ### First runs -/

namespace Profile

variable {profile : Profile} {name : String}

/-- Whether a run is one of a DaCapo benchmark, which its suffix names. -/
def IsHarness (profile : Profile) (name : String) : Prop :=
  profile.mainClass = harnessClass ∧
    ∃ part, profile.NamesPart part ∧ Text.capitalize part = name

/-- The DaCapo benchmark of a run, if it is one of DaCapo and has a name. -/
def harness? (profile : Profile) : Option String :=
  if profile.mainClass = harnessClass then (Text.capitalize <$> profile.harnessName).toOption
  else none

theorem harness?_eq_some_iff : profile.harness? = some name ↔ profile.IsHarness name := by
  rw [harness?, IsHarness]
  split
  · next harness =>
    simp only [toOption_eq_some_iff, map_eq_ok_iff, harnessName, suffixPart_eq_ok_iff, harness,
      true_and]
  · next other => simp [other]

theorem IsHarness.unique {other : String} (harness : profile.IsHarness name)
    (harness' : profile.IsHarness other) : name = other := by
  rw [← harness?_eq_some_iff] at harness harness'
  exact Option.some.inj (harness.symm.trans harness')

/-- A run is one of a DaCapo benchmark, or one of DaCapo without a benchmark, or not of DaCapo. -/
theorem kinds (profile : Profile) :
    (∃ name, profile.IsHarness name) ∨
      (profile.mainClass = harnessClass ∧ ¬ ∃ name, profile.IsHarness name) ∨
        profile.mainClass ≠ harnessClass := by
  by_cases named : ∃ name, profile.IsHarness name
  · exact .inl named
  · by_cases main : profile.mainClass = harnessClass
    · exact .inr (.inl ⟨main, named⟩)
    · exact .inr (.inr main)

/-- Whether a run is the first of a DaCapo benchmark in a list of runs. -/
def IsFirst (profile : Profile) (name : String) (profiles : List Profile) : Prop :=
  profile.IsHarness name ∧ ∃ before after, profiles = before ++ profile :: after ∧
    ∀ earlier ∈ before, ¬ earlier.IsHarness name

theorem not_isFirst_nil : ¬ profile.IsFirst name [] := by
  rintro ⟨-, before, after, split, -⟩
  exact absurd split (by simp)

theorem isFirst_cons_iff {head : Profile} {profiles : List Profile} :
    profile.IsFirst name (head :: profiles) ↔
      profile = head ∧ head.IsHarness name ∨
        ¬ head.IsHarness name ∧ profile.IsFirst name profiles := by
  constructor
  · rintro ⟨harness, before, after, split, none⟩
    cases before with
    | nil =>
      obtain ⟨rfl, rfl⟩ := List.cons.inj split
      exact .inl ⟨rfl, harness⟩
    | cons other before =>
      obtain ⟨rfl, rfl⟩ := List.cons.inj split
      obtain ⟨here, there⟩ := List.forall_mem_cons.mp none
      exact .inr ⟨here, harness, before, after, rfl, there⟩
  · rintro (⟨rfl, harness⟩ | ⟨here, harness, before, after, rfl, there⟩)
    · exact ⟨harness, [], profiles, rfl, by simp⟩
    · exact ⟨harness, head :: before, after, rfl, List.forall_mem_cons.mpr ⟨here, there⟩⟩

end Profile

/-- The runs that are the first of their DaCapo benchmark, those `seen` before left out. -/
def firstRuns (seen : List String) : List Profile → List (String × Profile)
  | [] => []
  | profile :: profiles =>
    match profile.harness? with
    | none => firstRuns seen profiles
    | some name =>
      if name ∈ seen then firstRuns seen profiles
      else (name, profile) :: firstRuns (name :: seen) profiles

section FirstRuns

variable {seen : List String} {name : String} {profile : Profile} {profiles : List Profile}

theorem firstRuns_cons_other (other : profile.harness? = none) :
    firstRuns seen (profile :: profiles) = firstRuns seen profiles := by
  rw [firstRuns, other]

theorem firstRuns_cons_seen (harness : profile.harness? = some name) (old : name ∈ seen) :
    firstRuns seen (profile :: profiles) = firstRuns seen profiles := by
  rw [firstRuns, harness]
  exact if_pos old

theorem firstRuns_cons_first (harness : profile.harness? = some name) (new : name ∉ seen) :
    firstRuns seen (profile :: profiles) =
      (name, profile) :: firstRuns (name :: seen) profiles := by
  rw [firstRuns, harness]
  exact if_neg new

/-- **The first runs** are those before which no run has their benchmark. -/
theorem mem_firstRuns_iff :
    (name, profile) ∈ firstRuns seen profiles ↔ name ∉ seen ∧ profile.IsFirst name profiles := by
  induction profiles generalizing seen with
  | nil => simp [firstRuns, Profile.not_isFirst_nil]
  | cons head profiles ih =>
    rw [Profile.isFirst_cons_iff, ← Profile.harness?_eq_some_iff]
    cases harness : head.harness? with
    | none =>
      rw [firstRuns_cons_other harness, ih]
      simp
    | some here =>
      by_cases old : here ∈ seen
      · rw [firstRuns_cons_seen harness old, ih]
        refine and_congr_right fun new => ?_
        have differ : here ≠ name := fun same => new (same ▸ old)
        simp [differ]
      · rw [firstRuns_cons_first harness old, List.mem_cons, ih, List.mem_cons, Prod.mk.injEq,
          Option.some.injEq]
        by_cases same : here = name
        · subst same
          simp [old]
        · simp [same, Ne.symm same]

theorem nodup_firstRuns : ((firstRuns seen profiles).map (·.1)).Nodup := by
  induction profiles generalizing seen with
  | nil => simp [firstRuns]
  | cons head profiles ih =>
    cases harness : head.harness? with
    | none =>
      rw [firstRuns_cons_other harness]
      exact ih
    | some here =>
      by_cases old : here ∈ seen
      · rw [firstRuns_cons_seen harness old]
        exact ih
      · rw [firstRuns_cons_first harness old, List.map_cons]
        refine List.nodup_cons.mpr ⟨fun again => ?_, ih⟩
        obtain ⟨⟨_, other⟩, inFirst, rfl⟩ := List.mem_map.mp again
        exact (mem_firstRuns_iff.mp inFirst).1 List.mem_cons_self

theorem exists_isFirst_iff :
    (∃ profile, Profile.IsFirst profile name profiles) ↔ ∃ run ∈ profiles, run.IsHarness name := by
  constructor
  · rintro ⟨profile, harness, before, after, rfl, -⟩
    exact ⟨profile, by simp, harness⟩
  · induction profiles with
    | nil => simp
    | cons head profiles ih =>
      simp only [Profile.isFirst_cons_iff]
      rintro ⟨run, member, harness⟩
      by_cases here : head.IsHarness name
      · exact ⟨head, .inl ⟨rfl, here⟩⟩
      · rcases List.mem_cons.mp member with rfl | there
        · exact absurd harness here
        · obtain ⟨profile, first⟩ := ih ⟨run, there, harness⟩
          exact ⟨profile, .inr ⟨here, first⟩⟩

end FirstRuns

/-! ### The walk -/

/-- The runs outside DaCapo. -/
def otherRuns (profiles : List Profile) : List Profile :=
  profiles.filter fun profile => profile.mainClass ≠ harnessClass

theorem otherRuns_cons_harness {name : String} {profile : Profile} {profiles : List Profile}
    (harness : profile.IsHarness name) : otherRuns (profile :: profiles) = otherRuns profiles :=
  List.filter_cons_of_neg (by simp [harness.1])

namespace PrecisionRow

/-- The row of a run outside DaCapo. -/
def ofOther (profile : Profile) : Except FieldError PrecisionRow :=
  of (Text.capitalize profile.className) profile

/-- The row of the first run of a DaCapo benchmark. -/
def ofFirst (first : String × Profile) : Except FieldError PrecisionRow :=
  of first.1 first.2

end PrecisionRow

/-- Whether rows are those that the walk collects: all DaCapo runs name a benchmark, and there is a
row for each run outside DaCapo and for each first run of a benchmark, in the order of the runs. -/
structure Collected (seen : List String) (profiles : List Profile) (report : PrecisionReport) :
    Prop where
  named : ∀ profile ∈ profiles, profile.mainClass = harnessClass → ∃ name, profile.IsHarness name
  javaGrande : List.Forall₂ (fun profile row => PrecisionRow.ofOther profile = .ok row)
    (otherRuns profiles) report.javaGrande
  daCapo : List.Forall₂ (fun first row => PrecisionRow.ofFirst first = .ok row)
    (firstRuns seen profiles) report.daCapo

namespace Collected

variable {seen : List String} {name : String} {profile : Profile} {profiles : List Profile}
  {report : PrecisionReport}

theorem nil_iff : Collected seen [] report ↔ report = ⟨[], []⟩ := by
  constructor
  · rintro ⟨-, javaGrande, daCapo⟩
    rw [otherRuns, List.filter_nil, List.forall₂_nil_left_iff] at javaGrande
    rw [firstRuns, List.forall₂_nil_left_iff] at daCapo
    obtain ⟨_, _⟩ := report
    rw [PrecisionReport.mk.injEq]
    exact ⟨javaGrande, daCapo⟩
  · rintro rfl
    exact ⟨by simp, .nil, .nil⟩

theorem cons_other_iff (other : profile.mainClass ≠ harnessClass) :
    Collected seen (profile :: profiles) report ↔
      ∃ row, PrecisionRow.ofOther profile = .ok row ∧ ∃ rest, Collected seen profiles rest ∧
        { rest with javaGrande := row :: rest.javaGrande } = report := by
  have others : otherRuns (profile :: profiles) = profile :: otherRuns profiles :=
    List.filter_cons_of_pos (by simp [other])
  have firsts : firstRuns seen (profile :: profiles) = firstRuns seen profiles :=
    firstRuns_cons_other (if_neg other)
  constructor
  · rintro ⟨named, javaGrande, daCapo⟩
    rw [others, List.forall₂_cons_left_iff] at javaGrande
    obtain ⟨row, rows, made, rest, is⟩ := javaGrande
    rw [firsts] at daCapo
    refine ⟨row, made, ⟨rows, report.daCapo⟩, ⟨?_, rest, daCapo⟩, by rw [← is]⟩
    exact (List.forall_mem_cons.mp named).2
  · rintro ⟨row, made, rest, ⟨named, javaGrande, daCapo⟩, rfl⟩
    refine ⟨List.forall_mem_cons.mpr ⟨fun main => absurd main other, named⟩, ?_, ?_⟩
    · rw [others]
      exact .cons made javaGrande
    · rw [firsts]
      exact daCapo

theorem cons_seen_iff (harness : profile.IsHarness name) (old : name ∈ seen) :
    Collected seen (profile :: profiles) report ↔ Collected seen profiles report := by
  have firsts : firstRuns seen (profile :: profiles) = firstRuns seen profiles :=
    firstRuns_cons_seen (Profile.harness?_eq_some_iff.mpr harness) old
  constructor
  · rintro ⟨named, javaGrande, daCapo⟩
    rw [otherRuns_cons_harness harness] at javaGrande
    rw [firsts] at daCapo
    exact ⟨(List.forall_mem_cons.mp named).2, javaGrande, daCapo⟩
  · rintro ⟨named, javaGrande, daCapo⟩
    refine ⟨List.forall_mem_cons.mpr ⟨fun _ => ⟨name, harness⟩, named⟩, ?_, ?_⟩
    · rw [otherRuns_cons_harness harness]
      exact javaGrande
    · rw [firsts]
      exact daCapo

theorem cons_first_iff (harness : profile.IsHarness name) (new : name ∉ seen) :
    Collected seen (profile :: profiles) report ↔
      ∃ row, PrecisionRow.ofFirst (name, profile) = .ok row ∧
        ∃ rest, Collected (name :: seen) profiles rest ∧
          { rest with daCapo := row :: rest.daCapo } = report := by
  have firsts : firstRuns seen (profile :: profiles) =
      (name, profile) :: firstRuns (name :: seen) profiles :=
    firstRuns_cons_first (Profile.harness?_eq_some_iff.mpr harness) new
  constructor
  · rintro ⟨named, javaGrande, daCapo⟩
    rw [otherRuns_cons_harness harness] at javaGrande
    rw [firsts, List.forall₂_cons_left_iff] at daCapo
    obtain ⟨row, rows, made, rest, is⟩ := daCapo
    refine ⟨row, made, ⟨report.javaGrande, rows⟩, ⟨?_, javaGrande, rest⟩, by rw [← is]⟩
    exact (List.forall_mem_cons.mp named).2
  · rintro ⟨row, made, rest, ⟨named, javaGrande, daCapo⟩, rfl⟩
    refine ⟨List.forall_mem_cons.mpr ⟨fun _ => ⟨name, harness⟩, named⟩, ?_, ?_⟩
    · rw [otherRuns_cons_harness harness]
      exact javaGrande
    · rw [firsts]
      exact .cons made daCapo

/-- Rows can be collected if every run of DaCapo names a benchmark and every run that counts has
its fields. -/
theorem exists_iff :
    (∃ report, Collected seen profiles report) ↔
      (∀ profile ∈ profiles, profile.mainClass = harnessClass → ∃ name, profile.IsHarness name) ∧
        (∀ profile ∈ otherRuns profiles, ∃ row, PrecisionRow.ofOther profile = .ok row) ∧
        ∀ first ∈ firstRuns seen profiles, ∃ row, PrecisionRow.ofFirst first = .ok row := by
  rw [← exists_mapM_eq_ok_iff, ← exists_mapM_eq_ok_iff]
  simp only [mapM_eq_ok_iff]
  constructor
  · rintro ⟨report, named, javaGrande, daCapo⟩
    exact ⟨named, ⟨_, javaGrande⟩, _, daCapo⟩
  · rintro ⟨named, ⟨_, javaGrande⟩, _, daCapo⟩
    exact ⟨⟨_, _⟩, named, javaGrande, daCapo⟩

theorem names_eq (collected : Collected seen profiles report) :
    (firstRuns seen profiles).map (·.1) = report.daCapo.map PrecisionRow.benchmark :=
  map_eq_map_of_mapM (mapM_eq_ok_iff.mpr collected.daCapo) fun _ _ made =>
    (PrecisionRow.of_eq_ok_iff.mp made).1.symm

theorem first_of_mem (collected : Collected seen profiles report) {row : PrecisionRow}
    (member : row ∈ report.daCapo) :
    ∃ profile, profile.IsFirst row.benchmark profiles ∧
      PrecisionRow.IsOf row.benchmark profile row := by
  obtain ⟨⟨name, profile⟩, inFirsts, made⟩ :=
    (mem_mapM_iff (mapM_eq_ok_iff.mpr collected.daCapo)).mp member
  have is := PrecisionRow.of_eq_ok_iff.mp made
  obtain rfl := is.1
  exact ⟨profile, (mem_firstRuns_iff.mp inFirsts).2, is⟩

end Collected

namespace PrecisionReport

variable {seen : List String} {name : String} {profile : Profile} {profiles : List Profile}
  {report : PrecisionReport}

theorem collect_cons_other (other : profile.mainClass ≠ harnessClass) :
    collect seen (profile :: profiles) =
      PrecisionRow.ofOther profile >>= fun row =>
        (fun report => { report with javaGrande := row :: report.javaGrande }) <$>
          collect seen profiles := by
  rw [collect, if_neg other, PrecisionRow.ofOther]
  simp only [← bind_pure_comp]

theorem collect_cons_seen (harness : profile.IsHarness name) (old : name ∈ seen) :
    collect seen (profile :: profiles) = collect seen profiles := by
  obtain ⟨main, part, named, rfl⟩ := harness
  rw [collect, if_pos main, Profile.harnessName, Profile.suffixPart_eq_ok_iff.mpr named]
  exact if_pos (List.contains_iff_mem.mpr old)

theorem collect_cons_first (harness : profile.IsHarness name) (new : name ∉ seen) :
    collect seen (profile :: profiles) =
      PrecisionRow.ofFirst (name, profile) >>= fun row =>
        (fun report => { report with daCapo := row :: report.daCapo }) <$>
          collect (name :: seen) profiles := by
  obtain ⟨main, part, named, rfl⟩ := harness
  rw [collect, if_pos main, Profile.harnessName, Profile.suffixPart_eq_ok_iff.mpr named]
  simp only [← bind_pure_comp]
  exact if_neg (mt List.contains_iff_mem.mp new)

/-- A DaCapo run without a benchmark makes the walk fail, whatever comes behind it. -/
theorem collect_cons_unnamed (seen : List String) (main : profile.mainClass = harnessClass)
    (unnamed : ¬ ∃ name, profile.IsHarness name) :
    ∃ error, ∀ profiles, collect seen (profile :: profiles) = .error error := by
  cases suffix : profile.suffixPart with
  | ok part =>
    exact absurd ⟨_, main, part, Profile.suffixPart_eq_ok_iff.mp suffix, rfl⟩ unnamed
  | error error =>
    refine ⟨error, fun profiles => ?_⟩
    rw [collect, if_pos main, Profile.harnessName, suffix]
    rfl

/-- **The walk collects the rows** of the runs outside DaCapo and of the first runs of its
benchmarks. -/
theorem collect_eq_ok_iff :
    collect seen profiles = .ok report ↔ Collected seen profiles report := by
  -- A step adds to what was seen, so the induction is for any benchmarks seen before.
  induction profiles generalizing seen report with
  | nil => rw [Collected.nil_iff, collect, Except.ok.injEq, eq_comm]
  | cons profile profiles ih =>
    rcases profile.kinds with ⟨name, harness⟩ | ⟨main, unnamed⟩ | other
    · by_cases old : name ∈ seen
      · rw [collect_cons_seen harness old, Collected.cons_seen_iff harness old, ih]
      · rw [collect_cons_first harness old, Collected.cons_first_iff harness old]
        simp only [bind_eq_ok_iff, map_eq_ok_iff, ih]
    · obtain ⟨error, fails⟩ := collect_cons_unnamed seen main unnamed
      rw [fails]
      constructor
      · intro impossible
        cases impossible
      · intro collected
        exact absurd (collected.named profile List.mem_cons_self main) unnamed
    · rw [collect_cons_other other, Collected.cons_other_iff other]
      simp only [bind_eq_ok_iff, map_eq_ok_iff, ih]

/-- **A further run of a DaCapo benchmark** does not count, whatever its fields are. -/
theorem collect_repeated {repeated : Profile} {before after : List Profile}
    (harness : repeated.IsHarness name)
    (old : name ∈ seen ∨ ∃ earlier ∈ before, earlier.IsHarness name) :
    collect seen (before ++ repeated :: after) = collect seen (before ++ after) := by
  induction before generalizing seen with
  | nil =>
    rcases old with old | ⟨_, member, -⟩
    · exact collect_cons_seen harness old
    · cases member
  | cons head before ih =>
    rw [List.exists_mem_cons_iff] at old
    rw [List.cons_append, List.cons_append]
    -- The earlier run is the head, whose benchmark is seen from then on, or comes later.
    rcases head.kinds with ⟨first, named⟩ | ⟨main, unnamed⟩ | other
    · by_cases known : first ∈ seen
      · have old' : name ∈ seen ∨ ∃ earlier ∈ before, earlier.IsHarness name := by
          rcases old with inSeen | here | there
          · exact .inl inSeen
          · exact .inl (here.unique named ▸ known)
          · exact .inr there
        rw [collect_cons_seen named known, collect_cons_seen named known, ih old']
      · have old' : name ∈ first :: seen ∨ ∃ earlier ∈ before, earlier.IsHarness name := by
          rcases old with inSeen | here | there
          · exact .inl (List.mem_cons_of_mem _ inSeen)
          · exact .inl (here.unique named ▸ List.mem_cons_self)
          · exact .inr there
        rw [collect_cons_first named known, collect_cons_first named known, ih old']
    · obtain ⟨error, fails⟩ := collect_cons_unnamed seen main unnamed
      rw [fails, fails]
    · have old' : name ∈ seen ∨ ∃ earlier ∈ before, earlier.IsHarness name := by
        rcases old with inSeen | here | there
        · exact .inl inSeen
        · exact absurd here.1 other
        · exact .inr there
      rw [collect_cons_other other, collect_cons_other other, ih old']

end PrecisionReport

/-! ### Reports -/

/-- What a report on precision shows.  Its rows on Java Grande are those of the runs outside DaCapo,
one for each, stably sorted.  On DaCapo there is one row for each benchmark, that of its first run,
and the names ascend, so no two rows tie.  The precisions that rows are sorted by are the nodes and
edges of the run in percent of those of its specification. -/
structure PrecisionReport.Shows (report : PrecisionReport) (profiles : List Profile) : Prop where
  javaGrande : ∃ rows, StablySorted PrecisionRow.key rows report.javaGrande ∧
    List.Forall₂
      (fun profile row => PrecisionRow.IsOf (Text.capitalize profile.className) profile row)
      (otherRuns profiles) rows
  names : ∀ name, name ∈ report.daCapo.map PrecisionRow.benchmark ↔
    ∃ profile ∈ profiles, profile.IsHarness name
  firsts : ∀ row ∈ report.daCapo, ∃ profile, profile.IsFirst row.benchmark profiles ∧
    PrecisionRow.IsOf row.benchmark profile row
  ascending : (report.daCapo.map PrecisionRow.benchmark).Pairwise (· < ·)
  ordered : report.daCapo.Pairwise fun first second => keyLE PrecisionRow.key first second = true
  precisions : ∀ row ∈ report.javaGrande ++ report.daCapo,
    PrecisionRow.IsPercent row.runNodes row.specifiedNodes row.nodePrecision ∧
      PrecisionRow.IsPercent row.runEdges row.specifiedEdges row.edgePrecision

namespace PrecisionReport

variable {profiles : List Profile} {report : PrecisionReport}

theorem of_eq_map (profiles : List Profile) :
    of profiles =
      (fun rows => ⟨rows.javaGrande.mergeSort (keyLE PrecisionRow.key),
        rows.daCapo.mergeSort (keyLE PrecisionRow.key)⟩) <$>
          (collect [] profiles).mapError .field := by
  rw [← PrecisionRow.precedes_eq]
  exact bind_pure_comp _ _

theorem of_eq_ok_iff :
    of profiles = .ok report ↔ ∃ rows, Collected [] profiles rows ∧
      ⟨rows.javaGrande.mergeSort (keyLE PrecisionRow.key),
        rows.daCapo.mergeSort (keyLE PrecisionRow.key)⟩ = report := by
  simp only [of_eq_map, map_eq_ok_iff, mapError_eq_ok_iff, collect_eq_ok_iff]

theorem exists_of_iff :
    (∃ report, of profiles = .ok report) ↔
      (∀ profile ∈ profiles, profile.mainClass = harnessClass → ∃ part, profile.NamesPart part) ∧
      (∀ profile ∈ profiles, profile.mainClass ≠ harnessClass →
        ∀ column ∈ PrecisionRow.columns, profile.HasCounter column.1) ∧
      ∀ (profile : Profile) (name : String), profile.IsFirst name profiles →
        ∀ column ∈ PrecisionRow.columns, profile.HasCounter column.1 := by
  have harnesses : ∀ profile : Profile, profile.mainClass = harnessClass →
      ((∃ name, profile.IsHarness name) ↔ ∃ part, profile.NamesPart part) := by
    intro profile main
    constructor
    · rintro ⟨_, -, part, named, -⟩
      exact ⟨part, named⟩
    · rintro ⟨part, named⟩
      exact ⟨_, main, part, named, rfl⟩
  have collected : (∃ report, of profiles = .ok report) ↔ ∃ rows, Collected [] profiles rows := by
    simp only [of_eq_map, exists_map_eq_ok_iff, mapError_eq_ok_iff, collect_eq_ok_iff]
  rw [collected, Collected.exists_iff]
  refine and_congr ?_ (and_congr ?_ ?_)
  · exact forall₂_congr fun profile _ => forall_congr' (harnesses profile)
  · simp only [otherRuns, List.mem_filter, decide_eq_true_eq, and_imp, PrecisionRow.ofOther,
      PrecisionRow.exists_of_iff]
  · simp only [Prod.forall, mem_firstRuns_iff, List.not_mem_nil, not_false_eq_true, true_and,
      PrecisionRow.ofFirst, PrecisionRow.exists_of_iff]
    exact forall_comm

theorem shows_of_ok (made : of profiles = .ok report) : report.Shows profiles := by
  obtain ⟨rows, collected, rfl⟩ := of_eq_ok_iff.mp made
  have sorted := stablySorted_mergeSort PrecisionRow.key rows.daCapo
  have names := sorted.perm.map PrecisionRow.benchmark
  have distinct : (rows.daCapo.map PrecisionRow.benchmark).Nodup := by
    rw [← collected.names_eq]
    exact nodup_firstRuns
  refine ⟨⟨rows.javaGrande, stablySorted_mergeSort _ _, ?_⟩, fun name => ?_, fun row member => ?_,
    ?_, sorted.ordered,
    fun _ _ => ⟨PrecisionRow.isPercent_percent .., PrecisionRow.isPercent_percent ..⟩⟩
  · exact collected.javaGrande.imp fun _ _ made => PrecisionRow.of_eq_ok_iff.mp made
  · rw [names.mem_iff, ← collected.names_eq, ← exists_isFirst_iff]
    simp [mem_firstRuns_iff]
  · exact collected.first_of_mem (sorted.perm.mem_iff.mp member)
  · have differ := List.pairwise_map.mp (names.nodup_iff.mpr distinct)
    refine List.pairwise_map.mpr (sorted.ordered.imp₂ ?_ differ)
    exact fun _ _ => PrecisionRow.benchmark_lt_of_keyLE

theorem field_of_error {error : ReportError} (failed : of profiles = .error error) :
    ∃ cause, error = .field cause := by
  rw [of_eq_map, map_eq_error_iff, mapError_eq_error_iff] at failed
  obtain ⟨cause, -, is⟩ := failed
  exact ⟨cause, is.symm⟩

end PrecisionReport

/-- **When there is a report on precision, and what it shows.**  There is one exactly if every run
of DaCapo names a benchmark and the four fields are integers in every run outside DaCapo and in the
first run of every DaCapo benchmark; a report that fails does so on a field and not on a quotient.
A further run of a DaCapo benchmark may be left out, whatever it counts. -/
theorem precision_reported (profiles : List Profile) :
    ((∃ report, PrecisionReport.of profiles = .ok report) ↔
      (∀ profile ∈ profiles, profile.mainClass = harnessClass → ∃ part, profile.NamesPart part) ∧
      (∀ profile ∈ profiles, profile.mainClass ≠ harnessClass →
        ∀ column ∈ PrecisionRow.columns, profile.HasCounter column.1) ∧
      ∀ (profile : Profile) (name : String), profile.IsFirst name profiles →
        ∀ column ∈ PrecisionRow.columns, profile.HasCounter column.1) ∧
    (∀ error, PrecisionReport.of profiles = .error error → ∃ cause, error = .field cause) ∧
    (∀ report, PrecisionReport.of profiles = .ok report → report.Shows profiles) ∧
    ∀ before repeated after name, profiles = before ++ repeated :: after →
      repeated.IsHarness name → (∃ earlier ∈ before, earlier.IsHarness name) →
        PrecisionReport.of profiles = PrecisionReport.of (before ++ after) := by
  refine ⟨PrecisionReport.exists_of_iff, fun _ => PrecisionReport.field_of_error,
    fun _ => PrecisionReport.shows_of_ok, ?_⟩
  rintro before repeated after name rfl harness old
  rw [PrecisionReport.of_eq_map, PrecisionReport.of_eq_map,
    PrecisionReport.collect_repeated harness (.inr old)]

/-- A run that used some nodes and edges of its specification. -/
def specifiedRun (mainClass suffix : String) (nodes ofNodes edges ofEdges : Int64) : Profile where
  record := .ofList [("Total comm nodes in run", .int nodes),
    ("Total comm nodes in used specs", .int ofNodes), ("Total comm edges in run", .int edges),
    ("Total comm edges in used specs", .int ofEdges)]
  options := .ofList [(suffixOption, .string suffix)]
  mainClass := mainClass
  source := ⟨"run.py"⟩

/-- A run of DaCapo without any field. -/
def unspecifiedRun : Profile where
  record := .empty
  options := .ofList [(suffixOption, .string "-xalan-prof-1.py")]
  mainClass := "Harness"
  source := ⟨"run.py"⟩

/-- A run outside DaCapo, and one of a DaCapo benchmark. -/
def earlierRuns : List Profile :=
  [specifiedRun "JGFSORBenchSizeA" "-4-threads-prof-0.py" 3 4 1 0,
    specifiedRun "Harness" "-xalan-prof-0.py" 1 2 1 4]

/-- Two runs of one benchmark outside DaCapo. -/
def laterRuns : List Profile :=
  [specifiedRun "JGFCryptBenchSizeA" "-4-threads-prof-0.py" 5 5 2 4,
    specifiedRun "JGFCryptBenchSizeA" "-8-threads-prof-0.py" 4 5 1 4]

/-- The report on these runs, where four nodes of five come before all five. -/
def specifiedReport : PrecisionReport :=
  ⟨[⟨"Crypt", 4, 5, 1, 4⟩, ⟨"Crypt", 5, 5, 2, 4⟩, ⟨"Sor", 3, 4, 1, 0⟩], [⟨"Xalan", 1, 2, 1, 4⟩]⟩

theorem of_specifiedRuns :
    PrecisionReport.of (earlierRuns ++ laterRuns) = .ok specifiedReport := by
  let rows : List PrecisionRow :=
    [⟨"Sor", 3, 4, 1, 0⟩, ⟨"Crypt", 5, 5, 2, 4⟩, ⟨"Crypt", 4, 5, 1, 4⟩]
  have collected : PrecisionReport.collect [] (earlierRuns ++ laterRuns) =
      .ok ⟨rows, [⟨"Xalan", 1, 2, 1, 4⟩]⟩ := rfl
  have ordered : specifiedReport.javaGrande.Pairwise fun first second =>
      keyLE PrecisionRow.key first second = true := by decide +kernel
  -- No two of the rows tie, so there is one way to sort them.
  have differ : ∀ first ∈ specifiedReport.javaGrande, ∀ second ∈ specifiedReport.javaGrande,
      keyLE PrecisionRow.key first second = true → keyLE PrecisionRow.key second first = true →
        first = second := by decide +kernel
  have perm : rows.Perm specifiedReport.javaGrande := by decide
  have sorts := stablySorted_mergeSort PrecisionRow.key rows
  have sorted : rows.mergeSort (keyLE PrecisionRow.key) = specifiedReport.javaGrande := by
    refine (sorts.perm.trans perm).eq_of_pairwise ?_ sorts.ordered ordered
    intro first second inSorted
    exact differ first ((sorts.perm.trans perm).mem_iff.mp inSorted) second
  rw [PrecisionReport.of_eq_map, collected]
  exact congrArg Except.ok (congr (congrArg _ sorted) (List.mergeSort_singleton _))

/-- The further run of its benchmark counts neither for the report nor against it. -/
theorem specified_runs_reported :
    PrecisionReport.of (earlierRuns ++ unspecifiedRun :: laterRuns) = .ok specifiedReport ∧
      specifiedReport.Shows (earlierRuns ++ unspecifiedRun :: laterRuns) := by
  obtain ⟨-, -, shown, repeated⟩ := precision_reported (earlierRuns ++ unspecifiedRun :: laterRuns)
  have harness : unspecifiedRun.harness? = some "Xalan" := rfl
  have old : ∃ earlier ∈ earlierRuns, earlier.harness? = some "Xalan" := by decide +kernel
  simp only [Profile.harness?_eq_some_iff] at harness old
  have made : PrecisionReport.of (earlierRuns ++ unspecifiedRun :: laterRuns) =
      .ok specifiedReport := by
    rw [repeated _ _ _ _ rfl harness old]
    exact of_specifiedRuns
  exact ⟨made, shown _ made⟩

end DumpDigest
