import DumpDigest.Profile.Benchmark
import DumpDigest.Proofs.Grouping
import DumpDigest.Report.Error

/-!
# Rows by benchmark

Reports make a row for the runs of each benchmark, or of each thread count.  `rowsBy_eq_ok` says
what such rows are: their keys ascend, there is one for each key that has runs, and it is made of
exactly these runs.  `exists_rowsBy_iff` says when there are rows: every run has a key, and a row
can be made for each of them.  The order of the runs matters to the rows only as far as it matters
to each of them (`alike_rowsBy`).
-/

namespace DumpDigest

open Result

variable {κ ρ : Type} {key : Profile → Except FieldError κ}
  {make : κ → List Profile → Except ReportError ρ} {label : ρ → κ}
  {profiles : List Profile} {rows : List ρ}

section Groups

variable [Ord κ] [Std.TransOrd κ]

/-- The rows for the runs of each benchmark. -/
def rowsBy (key : Profile → Except FieldError κ)
    (make : κ → List Profile → Except ReportError ρ) (profiles : List Profile) :
    Except ReportError (List ρ) := do
  let groups ← (tryPartition key profiles : Except FieldError _)
  groups.mapM fun group => make group.1 group.2

theorem rowsBy_ok (total : Profile → κ) :
    rowsBy (fun profile => .ok (total profile)) make profiles =
      (partition total profiles).mapM fun group => make group.1 group.2 := by
  have groups : tryPartition (fun profile => .ok (total profile)) profiles =
      (.ok (partition total profiles) : Except FieldError _) :=
    tryPartition_eq_ok fun _ _ => rfl
  rw [rowsBy, groups]
  rfl

theorem rowsBy_eq_ok_iff [Nonempty κ] :
    rowsBy key make profiles = .ok rows ↔
      ∃ total : Profile → κ, (∀ profile ∈ profiles, key profile = .ok (total profile)) ∧
        (partition total profiles).mapM (fun group => make group.1 group.2) = .ok rows := by
  have unfolded : rowsBy key make profiles =
      (tryPartition key profiles).mapError .field >>= fun groups =>
        groups.mapM fun group => make group.1 group.2 := rfl
  rw [unfolded, bind_eq_ok_iff]
  simp only [mapError_eq_ok_iff, tryPartition_eq_ok_iff]
  constructor
  · rintro ⟨_, ⟨total, taken, rfl⟩, made⟩
    exact ⟨total, taken, made⟩
  · rintro ⟨total, taken, made⟩
    exact ⟨_, ⟨total, taken, rfl⟩, made⟩

end Groups

variable [DecidableEq κ]

/-- The runs of a benchmark, or of another key. -/
def runsOf (key : Profile → Except FieldError κ) (name : κ) (profiles : List Profile) :
    List Profile :=
  profiles.filter fun profile => (key profile).toOption = some name

theorem mem_runsOf {name : κ} {profile : Profile} :
    profile ∈ runsOf key name profiles ↔ profile ∈ profiles ∧ key profile = .ok name := by
  rw [runsOf, List.mem_filter, decide_eq_true_eq, toOption_eq_some_iff]

theorem runsOf_eq_filter {name : κ} {holds : Profile → Prop} [DecidablePred holds]
    (named : ∀ profile, key profile = .ok name ↔ holds profile) (profiles : List Profile) :
    runsOf key name profiles = profiles.filter holds := by
  refine List.filter_congr fun profile _ => decide_eq_decide.mpr ?_
  rw [toOption_eq_some_iff, named]

variable [Ord κ] [Std.LawfulEqOrd κ]

theorem itemsAt_eq_runsOf {total : Profile → κ}
    (taken : ∀ profile ∈ profiles, key profile = .ok (total profile)) (name : κ) :
    itemsAt total name profiles = runsOf key name profiles := by
  refine List.filter_congr fun profile member => ?_
  rw [taken profile member]
  refine decide_eq_decide.mpr ?_
  rw [toOption_eq_some_iff, Except.ok.injEq]
  constructor
  · exact Std.LawfulEqCmp.eq_of_compare
  · rintro rfl
    exact Std.ReflCmp.compare_self

/-- What rows by benchmark are: their names ascend and are the names of the benchmarks, and each is
made of the runs of its benchmark. -/
structure RowsBy {κ ρ : Type} [DecidableEq κ] [Ord κ] (key : Profile → Except FieldError κ)
    (make : κ → List Profile → Except ReportError ρ) (label : ρ → κ)
    (profiles : List Profile) (rows : List ρ) : Prop where
  ascending : (rows.map label).Pairwise fun first second => compare first second = .lt
  names : ∀ name, name ∈ rows.map label ↔ ∃ profile ∈ profiles, key profile = .ok name
  made : ∀ row ∈ rows, make (label row) (runsOf key (label row) profiles) = .ok row

theorem RowsBy.distinct (made : RowsBy key make label profiles rows) : (rows.map label).Nodup := by
  refine made.ascending.imp ?_
  rintro first second below rfl
  have equal : compare first first = .eq := Std.ReflCmp.compare_self
  rw [equal] at below
  cases below

theorem RowsBy.sorted {key : Profile → Except FieldError String}
    {make : String → List Profile → Except ReportError ρ} {label : ρ → String}
    (made : RowsBy key make label profiles rows) : (rows.map label).Pairwise (· < ·) :=
  made.ascending.imp compareOfLessAndEq_eq_lt.mp

variable [Std.TransOrd κ]

/-- Where every run has a benchmark, the groups by benchmark are the runs of those that have any. -/
theorem mem_partition_iff_runsOf {total : Profile → κ}
    (taken : ∀ profile ∈ profiles, key profile = .ok (total profile)) {name : κ}
    {group : List Profile} :
    (name, group) ∈ partition total profiles ↔ group = runsOf key name profiles ∧ group ≠ [] := by
  rw [mem_partition_iff, itemsAt_eq_runsOf taken]

theorem rowsBy_eq_ok [Nonempty κ]
    (labeled : ∀ {name : κ} {group : List Profile} {row : ρ},
      make name group = .ok row → label row = name)
    (h : rowsBy key make profiles = .ok rows) : RowsBy key make label profiles rows := by
  obtain ⟨total, taken, made⟩ := rowsBy_eq_ok_iff.mp h
  have names : (partition total profiles).map (·.1) = rows.map label :=
    map_eq_map_of_mapM made fun _ _ rowMade => (labeled rowMade).symm
  refine ⟨?_, fun name => ?_, fun row inRows => ?_⟩
  · rw [← names, List.pairwise_map]
    exact partition_ascending total profiles
  · rw [← names, List.mem_map]
    constructor
    · rintro ⟨⟨name, group⟩, member, rfl⟩
      obtain ⟨rfl, some⟩ := (mem_partition_iff_runsOf taken).mp member
      obtain ⟨profile, inGroup⟩ := List.exists_mem_of_ne_nil _ some
      exact ⟨profile, mem_runsOf.mp inGroup⟩
    · rintro ⟨profile, member, named⟩
      refine ⟨(name, _), (mem_partition_iff_runsOf taken).mpr ⟨rfl, ?_⟩, rfl⟩
      exact List.ne_nil_of_mem (mem_runsOf.mpr ⟨member, named⟩)
  · obtain ⟨⟨name, group⟩, member, rowMade⟩ := (mem_mapM_iff made).mp inRows
    obtain ⟨rfl, -⟩ := (mem_partition_iff_runsOf taken).mp member
    rw [labeled rowMade]
    exact rowMade

/-- **When there are rows by benchmark**: every run has a benchmark whose row can be made. -/
theorem exists_rowsBy_iff [Nonempty κ] :
    (∃ rows, rowsBy key make profiles = .ok rows) ↔
      ∀ profile ∈ profiles, ∃ name, key profile = .ok name ∧
        ∃ row, make name (runsOf key name profiles) = .ok row := by
  simp only [rowsBy_eq_ok_iff]
  constructor
  · rintro ⟨rows, total, taken, made⟩ profile member
    refine ⟨total profile, taken profile member, ?_⟩
    have group := (mem_partition_iff_runsOf taken).mpr
      ⟨rfl, List.ne_nil_of_mem (mem_runsOf.mpr ⟨member, taken profile member⟩)⟩
    exact exists_mapM_eq_ok_iff.mp ⟨rows, made⟩ _ group
  · intro each
    choose! total taken row using each
    have rows : ∃ rows, (partition total profiles).mapM (fun group => make group.1 group.2) =
        .ok rows := by
      refine exists_mapM_eq_ok_iff.mpr ?_
      rintro ⟨name, group⟩ member
      obtain ⟨rfl, some⟩ := (mem_partition_iff_runsOf taken).mp member
      obtain ⟨profile, inGroup⟩ := List.exists_mem_of_ne_nil _ some
      obtain ⟨inProfiles, named⟩ := mem_runsOf.mp inGroup
      obtain rfl : total profile = name :=
        Except.ok.inj ((taken profile inProfiles).symm.trans named)
      exact row profile inProfiles
    obtain ⟨rows, made⟩ := rows
    exact ⟨rows, total, taken, made⟩

/-- **Rows by benchmark of the same runs in another order** are made alike, if that of every
benchmark is. -/
theorem alike_rowsBy [Nonempty κ] {others : List Profile} (perm : profiles.Perm others)
    (alike : ∀ name, SucceedAlike (make name (runsOf key name profiles))
      (make name (runsOf key name others))) :
    SucceedAlike (rowsBy key make profiles) (rowsBy key make others) := by
  intro rows
  rw [rowsBy_eq_ok_iff, rowsBy_eq_ok_iff]
  refine exists_congr fun total => ?_
  have taken_iff : (∀ profile ∈ profiles, key profile = .ok (total profile)) ↔
      ∀ profile ∈ others, key profile = .ok (total profile) := by simp only [perm.mem_iff]
  rw [← taken_iff]
  refine and_congr_right fun taken => alike_partition perm (fun name => ?_) rows
  rw [itemsAt_eq_runsOf taken, itemsAt_eq_runsOf (taken_iff.mp taken)]
  exact alike name

/-! ### Benchmarks by main class -/

/-- The runs with a main class of a benchmark. -/
def classRuns (name : String) (profiles : List Profile) : List Profile :=
  profiles.filter fun profile => profile.className = name

theorem runsOf_className (name : String) (profiles : List Profile) :
    runsOf (fun profile => .ok profile.className) name profiles = classRuns name profiles :=
  runsOf_eq_filter (fun _ => by rw [Except.ok.injEq]) profiles

end DumpDigest
