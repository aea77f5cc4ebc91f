import DumpDigest.Proofs.Profile.Counters
import DumpDigest.Proofs.Report.Aggregate
import DumpDigest.Proofs.Report.Benchmarks
import DumpDigest.Report.Caches

/-!
# Conservation in the report on the array cache

The row over all runs is computed from the runs and not from the rows of the benchmarks, but nothing
is lost or counted twice between them: hits and lookups of the one are those of the others together.
`caches_conserve` says so and also when there is a report.  It holds as long as no sum of hits or of
misses reaches a bound of 64 bits; beyond that the order of the runs matters, which is not the same
in both passes.

A sum of hits and one of misses are added without regard to the bounds, so lookups are counted
modulo `2 ^ 64`.  They are the exact ones where these fit in 64 bits (`LookupsFit`), and
`wrapped_lookups_do_not_add_up` has runs where they do not.
-/

namespace DumpDigest

open Result

/-- The runs that the report on the array cache sums over. -/
def cachePools (profiles : List Profile) : List (List Profile) :=
  pools (fun profile => classRuns profile.className profiles) profiles

/-- The lookups of runs in the array cache, modulo `2 ^ 64`. -/
def lookups (runs : List Profile) : Except FieldError Int64 := do
  let hits ← exactSum Profile.arrayHits runs
  let misses ← exactSum Profile.arrayMisses runs
  return .ofInt (hits + misses)

/-- Whether the hits and misses of runs stay within 64 bits on the way. -/
def CachesSteady (runs : List Profile) : Prop :=
  Steady Profile.arrayHits runs ∧ Steady Profile.arrayMisses runs

instance (runs : List Profile) : Decidable (CachesSteady runs) :=
  inferInstanceAs (Decidable (_ ∧ _))

/-- Whether the lookups of runs fit in 64 bits. -/
def LookupsFit (runs : List Profile) : Prop :=
  ∀ hits ∈ (exactSum Profile.arrayHits runs).toOption,
    ∀ misses ∈ (exactSum Profile.arrayMisses runs).toOption, FitsInt64 (hits + misses)

instance (runs : List Profile) : Decidable (LookupsFit runs) :=
  inferInstanceAs (Decidable (∀ _ ∈ (exactSum Profile.arrayHits runs).toOption,
    ∀ _ ∈ (exactSum Profile.arrayMisses runs).toOption, FitsInt64 _))

theorem lookups_eq_ok_iff {runs : List Profile} {n : Int64} :
    lookups runs = .ok n ↔
      ∃ hits misses, exactSum Profile.arrayHits runs = .ok hits ∧
        exactSum Profile.arrayMisses runs = .ok misses ∧ Int64.ofInt (hits + misses) = n := by
  simp only [lookups, bind_eq_ok_iff]
  constructor
  · rintro ⟨hits, hit, misses, missed, done⟩
    exact ⟨hits, misses, hit, missed, Except.ok.inj done⟩
  · rintro ⟨hits, misses, hit, missed, rfl⟩
    exact ⟨hits, hit, misses, missed, rfl⟩

/-- **The lookups of runs are those of parts of them together**: modulo `2 ^ 64` in any case, and
exactly if all of them fit in 64 bits. -/
theorem lookups_parts {ι κ : Type} [DecidableEq κ] (key : Profile → κ) {runs : List Profile}
    {parts : List ι} {keyOf : ι → κ} {value : ι → Int64} {whole : Int64}
    (distinct : (parts.map keyOf).Nodup) (covered : ∀ run ∈ runs, key run ∈ parts.map keyOf)
    (looked : ∀ part ∈ parts,
      lookups (runs.filter fun run => key run = keyOf part) = .ok (value part))
    (all : lookups runs = .ok whole) :
    totalOf (parts.map value) = whole ∧
      ((∀ part ∈ parts, LookupsFit (runs.filter fun run => key run = keyOf part)) →
        LookupsFit runs → (parts.map fun part => (value part).toInt).sum = whole.toInt) := by
  simp only [lookups_eq_ok_iff] at looked
  choose! hits misses hit missed added using looked
  have hitAll := exactSum_parts key distinct covered hit
  have missedAll := exactSum_parts key distinct covered missed
  obtain ⟨_, _, hitAll', missedAll', rfl⟩ := lookups_eq_ok_iff.mp all
  obtain rfl := Except.ok.inj (hitAll.symm.trans hitAll')
  obtain rfl := Except.ok.inj (missedAll.symm.trans missedAll')
  rw [← List.sum_map_add]
  constructor
  · rw [totalOf_eq_ofInt, List.map_map, ofInt_eq_ofInt_iff]
    refine sum_modEq fun part member => ?_
    rw [Function.comp_apply, ← added part member, ← ofInt_eq_ofInt_iff, Int64.ofInt_toInt]
  · intro fit fits
    have fits := fits _ (toOption_eq_some_iff.mpr hitAll) _ (toOption_eq_some_iff.mpr missedAll)
    rw [← List.sum_map_add] at fits
    rw [toInt_ofInt_of_fits fits]
    refine congrArg List.sum (List.map_congr_left fun part member => ?_)
    rw [← added part member, toInt_ofInt_of_fits]
    exact fit part member _ (toOption_eq_some_iff.mpr (hit part member)) _
      (toOption_eq_some_iff.mpr (missed part member))

/-! ### Rates -/

/-- Whether a rate is that of some runs, which has hits over lookups. -/
structure IsHitRate (runs : List Profile) (hits : Int) (all : Int64) (rate : Float) : Prop where
  hits_eq : exactSum Profile.arrayHits runs = .ok hits
  all_eq : lookups runs = .ok all
  nonzero : (Float.ofInt all.toInt == 0.0) = false
  rate_eq : rate = Float.ofInt hits / Float.ofInt all.toInt

namespace CacheRow

variable {name mode : String} {runs : List Profile}

theorem hitRate_eq : hitRate name mode runs =
    (sumOf Profile.arrayHits runs).mapError .field >>= fun hits =>
      (sumOf Profile.arrayMisses runs).mapError .field >>= fun misses =>
        ratio (Float.ofInt hits.toInt) (Float.ofInt (hits + misses).toInt)
          (.cacheLookups name mode) :=
  rfl

/-- **A hit rate can be taken** when hits and lookups can be summed and there are lookups. -/
theorem hitRate_eq_ok_iff (steady : CachesSteady runs) {rate : Float} :
    hitRate name mode runs = .ok rate ↔ ∃ hits all, IsHitRate runs hits all rate := by
  rw [hitRate_eq]
  simp only [bind_eq_ok_iff, mapError_eq_ok_iff, ratio_eq_ok_iff, sumOf_eq_ok_iff steady.1,
    sumOf_eq_ok_iff steady.2, add_eq_ofInt]
  constructor
  · rintro ⟨hits, hit, misses, missed, nonzero, rfl⟩
    exact ⟨_, _, hit, lookups_eq_ok_iff.mpr ⟨_, _, hit, missed, rfl⟩, nonzero, rfl⟩
  · rintro ⟨_, _, hit, looked, nonzero, rfl⟩
    obtain ⟨_, _, hit', missed, rfl⟩ := lookups_eq_ok_iff.mp looked
    obtain rfl := Except.ok.inj (hit.symm.trans hit')
    rw [← toInt_sumOf steady.1] at hit
    rw [← toInt_sumOf steady.2] at missed
    obtain ⟨hits, summed, rfl⟩ := map_eq_ok_iff.mp hit
    obtain ⟨misses, summed', rfl⟩ := map_eq_ok_iff.mp missed
    exact ⟨hits, (sumOf_eq_ok_iff steady.1).mp summed, misses,
      (sumOf_eq_ok_iff steady.2).mp summed', nonzero, rfl⟩

/-- The rate of a row in a mode. -/
def rate (row : CacheRow) : StateMode → Float
  | .array => row.arrayStates
  | .index => row.indexStates

theorem of_eq_ok_iff (steady : ∀ mode : StateMode, CachesSteady (mode.runs runs))
    {row : CacheRow} :
    of name runs = .ok row ↔
      row.benchmark = name ∧
        ∀ mode : StateMode, ∃ hits all, IsHitRate (mode.runs runs) hits all (row.rate mode) := by
  simp only [of, StateMode.splitArrayStates_eq, bind_eq_ok_iff, hitRate_eq_ok_iff (steady _)]
  constructor
  · rintro ⟨_, array, _, index, done⟩
    obtain rfl := Except.ok.inj done
    refine ⟨rfl, fun mode => ?_⟩
    cases mode with
    | array => exact array
    | index => exact index
  · rintro ⟨rfl, rates⟩
    exact ⟨_, rates .array, _, rates .index, rfl⟩

theorem benchmark_of {row : CacheRow} (made : of name runs = .ok row) : row.benchmark = name := by
  simp only [of, bind_eq_ok_iff] at made
  obtain ⟨_, -, _, -, done⟩ := made
  obtain rfl := Except.ok.inj done
  rfl

theorem exists_of_iff (steady : ∀ mode : StateMode, CachesSteady (mode.runs runs)) :
    (∃ row, of name runs = .ok row) ↔
      ∀ mode : StateMode, ∃ n, lookups (mode.runs runs) = .ok n ∧
        (Float.ofInt n.toInt == 0.0) = false := by
  have rate : ∀ runs, (∃ rate hits all, IsHitRate runs hits all rate) ↔
      ∃ n, lookups runs = .ok n ∧ (Float.ofInt n.toInt == 0.0) = false := by
    intro runs
    constructor
    · rintro ⟨_, _, all, is⟩
      exact ⟨all, is.all_eq, is.nonzero⟩
    · rintro ⟨n, looked, nonzero⟩
      obtain ⟨hits, _, hit, -⟩ := lookups_eq_ok_iff.mp looked
      exact ⟨_, hits, n, hit, looked, nonzero, rfl⟩
  simp only [of_eq_ok_iff steady, ← rate]
  constructor
  · rintro ⟨row, -, rates⟩ mode
    exact ⟨_, rates mode⟩
  · intro rates
    obtain ⟨array, arrayIs⟩ := rates .array
    obtain ⟨index, indexIs⟩ := rates .index
    refine ⟨⟨name, array, index⟩, rfl, fun mode => ?_⟩
    cases mode with
    | array => exact arrayIs
    | index => exact indexIs

end CacheRow

/-! ### Reports -/

/-- What makes up a report on the array cache: there is one row for each benchmark, and their names
ascend; every run counts for one mode of one row; and in both modes the hits over all runs are those
of the rows together, and so are the lookups, as far as they fit in 64 bits. -/
structure CachesReport.Conserves (report : CachesReport) (profiles : List Profile) : Prop where
  ascending : (report.rows.map CacheRow.benchmark).Pairwise (· < ·)
  benchmarks : ∀ name, name ∈ report.rows.map CacheRow.benchmark ↔
    ∃ profile ∈ profiles, profile.className = name
  counted : ∀ profile ∈ profiles, ∃! cell : String × StateMode,
    cell.1 ∈ report.rows.map CacheRow.benchmark ∧
      profile ∈ cell.2.runs (classRuns cell.1 profiles)
  allLabeled : report.all.benchmark = allLabel
  sums : ∃ (hits : CacheRow → StateMode → Int) (all : CacheRow → StateMode → Int64),
    (∀ row ∈ report.rows, ∀ mode : StateMode,
      IsHitRate (mode.runs (classRuns row.benchmark profiles)) (hits row mode) (all row mode)
        (row.rate mode)) ∧
    ∀ mode : StateMode,
      IsHitRate (mode.runs profiles) (report.rows.map (hits · mode)).sum
        (totalOf (report.rows.map (all · mode))) (report.all.rate mode) ∧
      ((∀ row ∈ report.rows, LookupsFit (mode.runs (classRuns row.benchmark profiles))) →
        LookupsFit (mode.runs profiles) →
        (report.rows.map fun row => (all row mode).toInt).sum =
          (totalOf (report.rows.map (all · mode))).toInt)

namespace CachesReport

variable {profiles : List Profile} {report : CachesReport}

theorem of_eq_ok_iff :
    of profiles = .ok report ↔
      rowsBy (fun profile => .ok profile.className) CacheRow.of profiles = .ok report.rows ∧
        CacheRow.of allLabel profiles = .ok report.all := by
  have unfolded : of profiles =
      rowsBy (fun profile => .ok profile.className) CacheRow.of profiles >>= fun rows =>
        CacheRow.of allLabel profiles >>= fun all => .ok ⟨rows, all⟩ := by
    rw [rowsBy_ok]
    rfl
  simp only [unfolded, bind_eq_ok_iff]
  constructor
  · rintro ⟨rows, made, all, madeAll, done⟩
    obtain rfl := Except.ok.inj done
    exact ⟨made, madeAll⟩
  · rintro ⟨made, madeAll⟩
    exact ⟨_, made, _, madeAll, rfl⟩

/-- The runs of a mode that belong to a benchmark are the runs of the benchmark that have the
mode. -/
theorem runs_classRuns (mode : StateMode) (name : String) (profiles : List Profile) :
    mode.runs (classRuns name profiles) =
      (mode.runs profiles).filter fun profile => profile.className = name :=
  List.filter_comm ..

theorem mem_cachePools_iff {pool : List Profile} :
    pool ∈ cachePools profiles ↔
      ∃ mode : StateMode, pool = mode.runs profiles ∨
        ∃ profile ∈ profiles, pool = mode.runs (classRuns profile.className profiles) :=
  mem_pools_iff

theorem rowsBy_className (made : of profiles = .ok report) :
    RowsBy (fun profile => .ok profile.className) CacheRow.of CacheRow.benchmark profiles
      report.rows :=
  rowsBy_eq_ok CacheRow.benchmark_of (of_eq_ok_iff.mp made).1

theorem mem_names_iff (made : of profiles = .ok report) {name : String} :
    name ∈ report.rows.map CacheRow.benchmark ↔
      ∃ profile ∈ profiles, profile.className = name := by
  simp only [(rowsBy_className made).names, Except.ok.injEq]

theorem existsUnique_cell (made : of profiles = .ok report) {profile : Profile}
    (member : profile ∈ profiles) :
    ∃! cell : String × StateMode,
      cell.1 ∈ report.rows.map CacheRow.benchmark ∧
        profile ∈ cell.2.runs (classRuns cell.1 profiles) := by
  have inNames := (mem_names_iff made).mpr ⟨profile, member, rfl⟩
  refine ⟨(profile.className, .of profile), ⟨inNames, ?_⟩, ?_⟩
  · simp [StateMode.mem_runs, classRuns, member]
  · rintro ⟨name, mode⟩ ⟨-, counts⟩
    simp only [StateMode.mem_runs, classRuns, List.mem_filter, decide_eq_true_eq] at counts
    obtain ⟨⟨-, rfl⟩, rfl⟩ := counts
    rfl

theorem isHitRate (steady : ∀ pool ∈ cachePools profiles, CachesSteady pool)
    (made : of profiles = .ok report) {row : CacheRow} (inRows : row ∈ report.rows)
    (mode : StateMode) :
    ∃ hits all, IsHitRate (mode.runs (classRuns row.benchmark profiles)) hits all
      (row.rate mode) := by
  obtain ⟨profile, member, same⟩ := (mem_names_iff made).mp (List.mem_map_of_mem inRows)
  have rowMade := (rowsBy_className made).made row inRows
  rw [runsOf_className] at rowMade
  refine ((CacheRow.of_eq_ok_iff fun mode => ?_).mp rowMade).2 mode
  refine steady _ (mem_cachePools_iff.mpr ⟨mode, .inr ⟨profile, member, ?_⟩⟩)
  rw [same]

/-- **Nothing is lost or counted twice** between the rows and the row over all runs. -/
theorem conserves (steady : ∀ pool ∈ cachePools profiles, CachesSteady pool)
    (made : of profiles = .ok report) : report.Conserves profiles := by
  have rows := rowsBy_className made
  have each : ∀ row ∈ report.rows, ∀ mode : StateMode, ∃ hits all,
      IsHitRate (mode.runs (classRuns row.benchmark profiles)) hits all (row.rate mode) :=
    fun row inRows mode => isHitRate steady made inRows mode
  choose! hits all rates using each
  obtain ⟨allLabeled, overall⟩ := (CacheRow.of_eq_ok_iff fun mode =>
    steady _ (mem_cachePools_iff.mpr ⟨mode, .inl rfl⟩)).mp (of_eq_ok_iff.mp made).2
  refine ⟨rows.sorted, fun name => mem_names_iff made,
    fun profile member => existsUnique_cell made member, allLabeled, hits, all, rates,
    fun mode => ?_⟩
  obtain ⟨hits', all', is⟩ := overall mode
  have covered : ∀ run ∈ mode.runs profiles,
      run.className ∈ report.rows.map CacheRow.benchmark :=
    fun run inMode => (mem_names_iff made).mpr ⟨run, (StateMode.mem_runs.mp inMode).1, rfl⟩
  have hitsSum : exactSum Profile.arrayHits (mode.runs profiles) =
      .ok (report.rows.map (hits · mode)).sum := by
    refine exactSum_parts Profile.className rows.distinct covered fun row inRows => ?_
    rw [← runs_classRuns]
    exact (rates row inRows mode).hits_eq
  obtain ⟨allSum, exactly⟩ := lookups_parts Profile.className rows.distinct covered
    (fun row inRows => by rw [← runs_classRuns]; exact (rates row inRows mode).all_eq) is.all_eq
  obtain rfl := Except.ok.inj (is.hits_eq.symm.trans hitsSum)
  subst allSum
  simp only [← runs_classRuns] at exactly
  exact ⟨is, exactly⟩

/-- There is a report when there are lookups in every pool that it sums over. -/
theorem exists_of_iff_pools (steady : ∀ pool ∈ cachePools profiles, CachesSteady pool) :
    (∃ report, of profiles = .ok report) ↔
      ∀ pool ∈ cachePools profiles, ∃ n, lookups pool = .ok n ∧
        (Float.ofInt n.toInt == 0.0) = false := by
  have whole : ∀ mode : StateMode, CachesSteady (mode.runs profiles) :=
    fun mode => steady _ (mem_cachePools_iff.mpr ⟨mode, .inl rfl⟩)
  have each : ∀ profile ∈ profiles, ∀ mode : StateMode,
      CachesSteady (mode.runs (classRuns profile.className profiles)) :=
    fun profile member mode => steady _ (mem_cachePools_iff.mpr ⟨mode, .inr ⟨profile, member, rfl⟩⟩)
  have parts : (∃ report, of profiles = .ok report) ↔
      (∃ rows, rowsBy (fun profile => .ok profile.className) CacheRow.of profiles = .ok rows) ∧
        ∃ all, CacheRow.of allLabel profiles = .ok all := by
    simp only [of_eq_ok_iff]
    constructor
    · rintro ⟨report, rows, all⟩
      exact ⟨⟨_, rows⟩, _, all⟩
    · rintro ⟨⟨rows, made⟩, all, madeAll⟩
      exact ⟨⟨rows, all⟩, made, madeAll⟩
  rw [parts, exists_rowsBy_iff, CacheRow.exists_of_iff whole]
  constructor
  · rintro ⟨rows, all⟩ pool inPools
    obtain ⟨mode, rfl | ⟨profile, member, rfl⟩⟩ := mem_cachePools_iff.mp inPools
    · exact all mode
    · obtain ⟨name, named, made⟩ := rows profile member
      obtain rfl : profile.className = name := Except.ok.inj named
      rw [runsOf_className, CacheRow.exists_of_iff (each profile member)] at made
      exact made mode
  · intro looked
    refine ⟨fun profile member => ⟨_, rfl, ?_⟩, fun mode => ?_⟩
    · rw [runsOf_className, CacheRow.exists_of_iff (each profile member)]
      exact fun mode => looked _ (mem_cachePools_iff.mpr ⟨mode, .inr ⟨profile, member, rfl⟩⟩)
    · exact looked _ (mem_cachePools_iff.mpr ⟨mode, .inl rfl⟩)

theorem hasCounters_of_lookups
    (looked : ∀ mode : StateMode, ∃ n, lookups (mode.runs profiles) = .ok n) :
    ∀ profile ∈ profiles, profile.HasCounter "Array hits" ∧ profile.HasCounter "Array misses" := by
  intro profile member
  obtain ⟨n, here⟩ := looked (.of profile)
  obtain ⟨hits, misses, hit, missed, -⟩ := lookups_eq_ok_iff.mp here
  have counts : profile ∈ (StateMode.of profile).runs profiles :=
    StateMode.mem_runs.mpr ⟨member, rfl⟩
  exact ⟨Profile.exists_counter_iff.mp (exists_exactSum_iff.mp ⟨hits, hit⟩ profile counts),
    Profile.exists_counter_iff.mp (exists_exactSum_iff.mp ⟨misses, missed⟩ profile counts)⟩

/-- **When there is a report on the array cache**: every run has its two counters, and the lookups
are not zero in both modes, of every benchmark and of all runs. -/
theorem exists_of_iff (steady : ∀ pool ∈ cachePools profiles, CachesSteady pool)
    (exact : ∀ pool ∈ cachePools profiles, ∀ n ∈ (lookups pool).toOption,
      (Float.ofInt n.toInt == 0.0) = true → n = 0) :
    (∃ report, of profiles = .ok report) ↔
      (∀ profile ∈ profiles, profile.HasCounter "Array hits" ∧ profile.HasCounter "Array misses") ∧
      ∀ pool ∈ cachePools profiles, ∃ n, lookups pool = .ok n ∧ n ≠ 0 := by
  have zero : ∀ pool ∈ cachePools profiles, ∀ n, lookups pool = .ok n →
      ((Float.ofInt n.toInt == 0.0) = false ↔ n ≠ 0) := by
    intro pool inPools n looked
    rw [← Bool.not_eq_true, not_iff_not]
    constructor
    · exact exact pool inPools n (toOption_eq_some_iff.mpr looked)
    · rintro rfl
      rfl
  rw [exists_of_iff_pools steady]
  constructor
  · intro looked
    refine ⟨hasCounters_of_lookups fun mode => ?_, fun pool inPools => ?_⟩
    · obtain ⟨n, here, -⟩ := looked _ (mem_cachePools_iff.mpr ⟨mode, .inl rfl⟩)
      exact ⟨n, here⟩
    · obtain ⟨n, here, nonzero⟩ := looked pool inPools
      exact ⟨n, here, (zero pool inPools n here).mp nonzero⟩
  · rintro ⟨-, looked⟩ pool inPools
    obtain ⟨n, here, nonzero⟩ := looked pool inPools
    exact ⟨n, here, (zero pool inPools n here).mpr nonzero⟩

end CachesReport

/-- A run that looked up the array cache. -/
def cachedRun (mainClass states : String) (hits misses : Int64) : Profile where
  record := .ofList [("Array hits", .int hits), ("Array misses", .int misses)]
  options := .ofList [("arrayIndexStates", .string states)]
  mainClass := mainClass
  source := ⟨"run.py"⟩

/-- The rate of some hits in some lookups. -/
def cachedRate (hits all : Int) : Float :=
  Float.ofInt hits / Float.ofInt all

/-- Runs of two benchmarks in both modes, of the one with two runs in a mode. -/
def cachedRuns : List Profile :=
  [cachedRun "JGFCryptBenchSizeA" "false" 5 1, cachedRun "Counter" "true" 3 1,
    cachedRun "JGFCryptBenchSizeA" "true" 1 3, cachedRun "JGFCryptBenchSizeA" "false" 1 1,
    cachedRun "Counter" "false" 2 6]

/-- The report on these runs. -/
def cachedReport : CachesReport :=
  ⟨[⟨"Counter", cachedRate 2 8, cachedRate 3 4⟩, ⟨"Crypt", cachedRate 6 8, cachedRate 1 4⟩],
    ⟨allLabel, cachedRate 8 16, cachedRate 4 8⟩⟩

theorem of_cachedRuns : CachesReport.of cachedRuns = .ok cachedReport :=
  (rfl)

/-- Runs of two benchmarks in both modes, each with as many hits as misses. -/
def crowdedRuns : List Profile :=
  let run (mainClass states : String) : Profile :=
    cachedRun mainClass states 2305843009213693952 2305843009213693952
  [run "JGFCryptBenchSizeA" "false", run "JGFCryptBenchSizeA" "true", run "Counter" "false",
    run "Counter" "true"]

/-- The report on these runs, by which half of the lookups are hits of each benchmark, but minus
half of all. -/
def crowdedReport : CachesReport :=
  let half := cachedRate 2305843009213693952 4611686018427387904
  let whole := cachedRate 4611686018427387904 (-9223372036854775808)
  ⟨[⟨"Counter", half, half⟩, ⟨"Crypt", half, half⟩], ⟨allLabel, whole, whole⟩⟩

end DumpDigest
