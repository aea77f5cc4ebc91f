import DumpDigest.Proofs.Distribution.Average
import DumpDigest.Proofs.Report.Aggregate
import DumpDigest.Proofs.Value.Field
import DumpDigest.Report.Modules

/-!
# The report on modules pools its summaries

The report adds up what it finds in each summary: the methods, brought within 64 bits for each of
them, and the modules, both modulo `2 ^ 64`.  The average of all distributions together is taken of
one tally with bounds of 128 bits.  The two have the same quotient as long as methods and modules
have 64 bits altogether, because then no tally reaches a bound, and the parts add up to the whole.

They differ where there is nothing to divide by.  An average of nothing is zero, so a summary
without modules has a row like any other; but the report fails if no summary has any.
`modules_pooled` is the main result.
-/

namespace DumpDigest

open Result

namespace StaticStats

/-- Whether a summary has this distribution of methods over modules.  An empty mapping is the empty
distribution. -/
def ShowsMethods (stats : StaticStats) (counts : Distribution) : Prop :=
  stats.record.find? "Total methods" = some (.distribution counts) ∨
    stats.record.find? "Total methods" = some (.record .nil) ∧ counts = .empty

theorem methods_eq_ok_iff {stats : StaticStats} {counts : Distribution} :
    stats.methods = .ok counts ↔ stats.ShowsMethods counts :=
  Record.distribution_eq_ok_iff

theorem ShowsMethods.unique {stats : StaticStats} {counts others : Distribution}
    (here : stats.ShowsMethods counts) (there : stats.ShowsMethods others) : counts = others := by
  rw [← methods_eq_ok_iff] at here there
  exact Except.ok.inj (here.symm.trans there)

end StaticStats

/-- Whether summaries have these distributions of methods, one for each summary in order. -/
def ShowMethods (summaries : List StaticStats) (distributions : List Distribution) : Prop :=
  List.Forall₂ StaticStats.ShowsMethods summaries distributions

theorem mapM_methods_eq_ok_iff {summaries : List StaticStats}
    {distributions : List Distribution} :
    summaries.mapM StaticStats.methods = .ok distributions ↔
      ShowMethods summaries distributions := by
  simp only [mapM_eq_ok_iff, StaticStats.methods_eq_ok_iff, ShowMethods]

theorem ShowMethods.unique {summaries : List StaticStats} {distributions others : List Distribution}
    (here : ShowMethods summaries distributions) (there : ShowMethods summaries others) :
    distributions = others := by
  rw [← mapM_methods_eq_ok_iff] at here there
  exact Except.ok.inj (here.symm.trans there)

/-! ### Sums that reach no bound -/

/-- Whether the methods of each distribution have 64 bits, and all methods and all modules together
have. -/
structure MethodsFit (distributions : List Distribution) : Prop where
  methods : ∀ counts ∈ distributions, FitsInt64 (Tally.weights false [counts]).sum
  together : FitsInt64 (Tally.weights false distributions).sum
  modules : Tally.observations false distributions < UInt64.size

namespace MethodsFit

variable {distributions : List Distribution}

theorem modules_of_mem (fits : MethodsFit distributions) {counts : Distribution}
    (member : counts ∈ distributions) : Tally.observations false [counts] < UInt64.size := by
  have part : Tally.observations false [counts] ≤ Tally.observations false distributions := by
    rw [Tally.observations_eq_sum distributions]
    exact List.le_sum_of_mem (List.mem_map_of_mem member)
  have whole := fits.modules
  omega

theorem count_eq (fits : MethodsFit distributions) {counts : Distribution}
    (member : counts ∈ distributions) :
    (distributionCount [counts]).toNat = Tally.observations false [counts] := by
  have few := fits.modules_of_mem member
  rw [distributionCount_eq]
  omega

theorem total_eq (fits : MethodsFit distributions) {counts : Distribution}
    (member : counts ∈ distributions) :
    (distributionTotal [counts]).toInt = (Tally.weights false [counts]).sum := by
  have exact := Tally.Exact.of_observations (fits.modules_of_mem member)
  rw [distributionTotal, exact.of_eq]
  exact clampInt64_of_fits (fits.methods counts member)

theorem map_counts (fits : MethodsFit distributions) :
    ((distributions.map fun counts => distributionCount [counts]).map UInt64.toNat).sum =
      Tally.observations false distributions := by
  rw [Tally.observations_eq_sum distributions, List.map_map]
  exact congrArg List.sum (List.map_congr_left fun counts member => fits.count_eq member)

/-- **The modules of the summaries are those of all distributions together.** -/
theorem sum_counts (fits : MethodsFit distributions) :
    (totalOf (distributions.map fun counts => distributionCount [counts])).toNat =
      Tally.observations false distributions := by
  rw [toNat_totalOf (fits.map_counts ▸ fits.modules), fits.map_counts]

theorem sum_totals (fits : MethodsFit distributions) :
    (totalOf (distributions.map fun counts => distributionTotal [counts])).toInt =
      (Tally.weights false distributions).sum := by
  have exactly : ((distributions.map fun counts => distributionTotal [counts]).map
      Int64.toInt).sum = (Tally.weights false distributions).sum := by
    rw [Tally.sum_weights_eq_sum distributions, List.map_map]
    exact congrArg List.sum (List.map_congr_left fun counts member => fits.total_eq member)
  rw [totalOf_eq_ofInt, exactly, toInt_ofInt_of_fits fits.together]

theorem distributionCount_eq_observations (fits : MethodsFit distributions) :
    (distributionCount distributions).toNat = Tally.observations false distributions := by
  have few := fits.modules
  rw [distributionCount_eq]
  omega

/-- The average of all distributions is the quotient of the exact sums. -/
theorem average_eq (fits : MethodsFit distributions)
    (counted : Tally.observations false distributions ≠ 0) :
    distributionAverage false distributions =
      Float.ofInt (Tally.weights false distributions).sum /
        Float.ofNat (Tally.observations false distributions) := by
  have exact := Tally.Exact.of_observations fits.modules
  rw [distributionAverage, exact.of_eq]
  exact if_neg counted

end MethodsFit

/-! ### The report -/

/-- The row of a summary with a distribution of methods. -/
def ModulesRow.ofCounts (stats : StaticStats) (counts : Distribution) : ModulesRow :=
  ⟨stats.name, distributionCount [counts], distributionAverage false [counts]⟩

/-- **A distribution that counts nothing** makes a row of zeros. -/
theorem ModulesRow.ofCounts_of_nothing (stats : StaticStats) {counts : Distribution}
    (nothing : ∀ entry ∈ counts.toList, entry.2 = 0) :
    ofCounts stats counts = ⟨stats.name, 0, 0.0⟩ := by
  have entries : ∀ entry ∈ Tally.entries false [counts], entry.2 = 0 := by
    rw [Tally.entries_false, List.flatMap_singleton]
    exact nothing
  have count : distributionCount [counts] = 0 := by
    rw [← UInt64.toNat_inj, distributionCount_eq, Tally.observations_eq_zero_iff.mpr entries]
    rfl
  rw [ofCounts, average_of_nothing entries, count]

/-- What a report on modules shows of summaries with these distributions of methods: a row for each
summary in order, whose modules are those of all distributions together, and the average of all
distributions together.  A summary without modules has a row of zeros. -/
structure ModulesReport.Pools (report : ModulesReport) (summaries : List StaticStats)
    (distributions : List Distribution) : Prop where
  shown : ShowMethods summaries distributions
  rows : report.rows = List.zipWith ModulesRow.ofCounts summaries distributions
  modules : (report.rows.map fun row => row.modules.toNat).sum =
    (distributionCount distributions).toNat
  overall : report.overall = distributionAverage false distributions
  guarded : ∀ stats ∈ summaries, ∀ counts, stats.ShowsMethods counts →
    (∀ entry ∈ counts.toList, entry.2 = 0) → ⟨stats.name, 0, 0.0⟩ ∈ report.rows

namespace ModulesReport

variable {summaries : List StaticStats} {distributions : List Distribution}
  {report : ModulesReport}

theorem map_modules_rows (shown : ShowMethods summaries distributions) :
    (List.zipWith ModulesRow.ofCounts summaries distributions).map ModulesRow.modules =
      distributions.map fun counts => distributionCount [counts] := by
  induction shown with
  | nil => rfl
  | cons _ _ ih => rw [List.zipWith_cons_cons, List.map_cons, List.map_cons, ih]; rfl

/-- **There is a report** if every summary has a distribution of methods and the modules are not
zero, and then it is the quotient of the sums. -/
theorem of_eq_ok_iff :
    of summaries = .ok report ↔
      ∃ distributions, ShowMethods summaries distributions ∧
        (Float.ofNat (totalOf (distributions.map fun counts => distributionCount [counts])).toNat ==
          0.0) = false ∧
        report = ⟨List.zipWith ModulesRow.ofCounts summaries distributions,
          Float.ofInt (totalOf (distributions.map fun counts => distributionTotal [counts])).toInt /
            Float.ofNat (totalOf
              (distributions.map fun counts => distributionCount [counts])).toNat⟩ := by
  have unfolded : of summaries =
      (summaries.mapM fun stats : StaticStats => (stats, ·) <$> stats.methods).mapError .field >>=
        fun pairs : List (StaticStats × Distribution) =>
          ratio (Float.ofInt (totalOf (pairs.map fun pair => distributionTotal [pair.2])).toInt)
              (Float.ofNat (totalOf ((pairs.map fun pair =>
                ModulesRow.ofCounts pair.1 pair.2).map ModulesRow.modules)).toNat) .modules >>=
            fun overall => .ok ⟨pairs.map fun pair => ModulesRow.ofCounts pair.1 pair.2, overall⟩ :=
    rfl
  have rows : ∀ distributions : List Distribution,
      ((summaries.zip distributions).map fun pair => ModulesRow.ofCounts pair.1 pair.2) =
        List.zipWith ModulesRow.ofCounts summaries distributions :=
    fun _ => List.zip_eq_zipWith ▸ List.map_zipWith ..
  have totals : ∀ {distributions}, ShowMethods summaries distributions →
      ((summaries.zip distributions).map fun pair => distributionTotal [pair.2]) =
        distributions.map fun counts => distributionTotal [counts] := by
    intro distributions shown
    conv_rhs => rw [← List.map_snd_zip (Nat.le_of_eq shown.length_eq.symm), List.map_map]
    rfl
  simp only [unfolded, mapM_paired, bind_eq_ok_iff, mapError_eq_ok_iff, map_eq_ok_iff,
    mapM_methods_eq_ok_iff, ratio_eq_ok_iff]
  constructor
  · rintro ⟨_, ⟨distributions, shown, rfl⟩, overall, ⟨nonzero, rfl⟩, done⟩
    rw [rows, map_modules_rows shown] at nonzero
    rw [rows, map_modules_rows shown, totals shown] at done
    exact ⟨distributions, shown, nonzero, (Except.ok.inj done).symm⟩
  · rintro ⟨distributions, shown, nonzero, rfl⟩
    refine ⟨_, ⟨distributions, shown, rfl⟩, _, ⟨?_, rfl⟩, ?_⟩
    · rwa [rows, map_modules_rows shown]
    · rw [rows, map_modules_rows shown, totals shown]

theorem mem_rows (shown : ShowMethods summaries distributions) {stats : StaticStats}
    (member : stats ∈ summaries) {counts : Distribution} (shows : stats.ShowsMethods counts) :
    ModulesRow.ofCounts stats counts ∈
      List.zipWith ModulesRow.ofCounts summaries distributions := by
  induction shown with
  | nil => cases member
  | cons here _ ih =>
    rcases List.mem_cons.mp member with rfl | member
    · rw [shows.unique here]
      exact List.mem_cons_self
    · exact List.mem_cons_of_mem _ (ih member)

theorem pools (fits : MethodsFit distributions) (shown : ShowMethods summaries distributions)
    (made : of summaries = .ok report) : report.Pools summaries distributions := by
  obtain ⟨others, shown', nonzero, rfl⟩ := of_eq_ok_iff.mp made
  obtain rfl := shown.unique shown'
  rw [fits.sum_counts] at nonzero
  refine ⟨shown, rfl, ?_, ?_, ?_⟩
  · have counts := congrArg (List.map UInt64.toNat) (map_modules_rows shown)
    rw [List.map_map] at counts
    rw [fits.distributionCount_eq_observations, ← fits.map_counts, ← counts]
    rfl
  · have counted : Tally.observations false distributions ≠ 0 := by
      intro none
      rw [none] at nonzero
      exact absurd nonzero (by decide)
    rw [fits.average_eq counted, fits.sum_totals, fits.sum_counts]
  · intro stats member counts shows nothing
    rw [← ModulesRow.ofCounts_of_nothing stats nothing]
    exact mem_rows shown member shows

theorem exists_of_iff
    (fits : ∀ distributions, ShowMethods summaries distributions → MethodsFit distributions)
    (exact : ∀ distributions, ShowMethods summaries distributions →
      (Float.ofNat (Tally.observations false distributions) == 0.0) = true →
        Tally.observations false distributions = 0) :
    (∃ report, of summaries = .ok report) ↔
      ∃ distributions, ShowMethods summaries distributions ∧
        Tally.observations false distributions ≠ 0 := by
  have zero : ∀ distributions, ShowMethods summaries distributions →
      ((Float.ofNat (Tally.observations false distributions) == 0.0) = false ↔
        Tally.observations false distributions ≠ 0) := by
    intro distributions shown
    rw [← Bool.not_eq_true, not_iff_not]
    constructor
    · exact exact distributions shown
    · intro none
      rw [none]
      rfl
  simp only [of_eq_ok_iff]
  constructor
  · rintro ⟨_, distributions, shown, nonzero, -⟩
    rw [(fits distributions shown).sum_counts, zero distributions shown] at nonzero
    exact ⟨distributions, shown, nonzero⟩
  · rintro ⟨distributions, shown, nonzero⟩
    rw [← zero distributions shown, ← (fits distributions shown).sum_counts] at nonzero
    exact ⟨_, distributions, shown, nonzero, rfl⟩

end ModulesReport

/-- **The report on modules pools its summaries**: there is one if every summary has a distribution
of methods and they have modules altogether, and its overall average is the average of all
distributions together.  The methods of each summary and the methods and modules of all must have
64 bits, and for the first part the number of modules must not become zero as a float unless it is
zero. -/
theorem modules_pooled (summaries : List StaticStats)
    (fits : ∀ distributions, ShowMethods summaries distributions → MethodsFit distributions) :
    ((∀ distributions, ShowMethods summaries distributions →
        (Float.ofNat (Tally.observations false distributions) == 0.0) = true →
          Tally.observations false distributions = 0) →
      ((∃ report, ModulesReport.of summaries = .ok report) ↔
        ∃ distributions, ShowMethods summaries distributions ∧
          Tally.observations false distributions ≠ 0)) ∧
    ∀ report, ModulesReport.of summaries = .ok report →
      ∃ distributions, report.Pools summaries distributions := by
  refine ⟨ModulesReport.exists_of_iff fits, fun report made => ?_⟩
  obtain ⟨distributions, shown, -⟩ := ModulesReport.of_eq_ok_iff.mp made
  exact ⟨distributions, ModulesReport.pools (fits distributions shown) shown made⟩

/-- A summary with this field of methods. -/
def methodsSummary (name : String) (methods : Value) : StaticStats :=
  ⟨name, .ofList [("Total methods", methods)]⟩

/-- Summaries of which two have no modules, the one for an empty mapping and the other for a count
of zero. -/
def methodsSummaries : List StaticStats :=
  [methodsSummary "crypt" (.distribution (.ofList [(2, 3), (5, 1)])),
    methodsSummary "series" (.record .nil),
    methodsSummary "sor" (.distribution (.ofList [(-1, 1), (0, 2)])),
    methodsSummary "lufact" (.distribution (.ofList [(4, 0)]))]

/-- The distributions of these summaries. -/
def methodsCounts : List Distribution :=
  [.ofList [(2, 3), (5, 1)], .empty, .ofList [(-1, 1), (0, 2)], .ofList [(4, 0)]]

/-- Ten methods in seven modules. -/
def methodsReport : ModulesReport :=
  ⟨[⟨"crypt", 4, Float.ofInt 11 / Float.ofNat 4⟩, ⟨"series", 0, 0.0⟩,
    ⟨"sor", 3, Float.ofInt (-1) / Float.ofNat 3⟩, ⟨"lufact", 0, 0.0⟩],
    Float.ofInt 10 / Float.ofNat 7⟩

theorem methods_summaries_pooled :
    methodsReport.Pools methodsSummaries methodsCounts ∧
      ∃ distributions, ShowMethods methodsSummaries distributions ∧
        Tally.observations false distributions ≠ 0 := by
  have shown : ShowMethods methodsSummaries methodsCounts :=
    .cons (.inl rfl) (.cons (.inr ⟨rfl, rfl⟩) (.cons (.inl rfl) (.cons (.inl rfl) .nil)))
  have made : ModulesReport.of methodsSummaries = .ok methodsReport := rfl
  have fit : MethodsFit methodsCounts := ⟨by decide, by decide, by decide⟩
  obtain ⟨exists_iff, pools⟩ := modules_pooled methodsSummaries fun _ shown' =>
    shown.unique shown' ▸ fit
  obtain ⟨distributions, pooled⟩ := pools _ made
  refine ⟨?_, (exists_iff fun _ shown' => ?_).mp ⟨_, made⟩⟩
  · rwa [shown.unique pooled.shown]
  · rw [← shown.unique shown']
    decide

end DumpDigest
