import DumpDigest.Proofs.Report.Aggregate
import DumpDigest.Proofs.Value.Field
import DumpDigest.Report.Annotations

/-!
# The two reports on annotations agree

One report shows the annotations of a benchmark by kind, the other all kinds together, and each goes
through the summaries by itself.  What they have in common is what a summary is `Measured` by: its
annotations and its methods.  Each of the reports is then described by one equivalence
(`AnnotationsReport.of_eq_ok_iff` and `ConcisenessReport.of_eq_ok_iff`), and the two differ only in
the communication groups, which the first one reads too, and in the order of the rows.
`annotation_reports_agree` is the main result.
-/

namespace DumpDigest

open Result

/-! ### What is measured -/

/-- The sum over all kinds is the sum that a row takes of its own kinds. -/
theorem AnnotationTotals.foldl_toList (totals : AnnotationTotals) :
    totals.toList.foldl (· + ·) 0 = totals.sum := by
  simp only [toList, sum, List.foldl_cons, List.foldl_nil, Int64.zero_add]

namespace StaticStats

variable {stats : StaticStats}

/-- Whether a summary has these annotations and these methods, of which there are some. -/
structure Measured (stats : StaticStats) (annotations methods : Int64) : Prop where
  annotations_eq : stats.annotationTotal = .ok annotations
  methods_eq : stats.methodTotal = .ok methods
  nonzero : (Float.ofInt methods.toInt == 0.0) = false

theorem Measured.unique {annotations annotations' methods methods' : Int64}
    (one : stats.Measured annotations methods) (other : stats.Measured annotations' methods') :
    annotations = annotations' ∧ methods = methods' :=
  ⟨Except.ok.inj (one.annotations_eq.symm.trans other.annotations_eq),
    Except.ok.inj (one.methods_eq.symm.trans other.methods_eq)⟩

/-- Whether a summary has a distribution of communication groups. -/
def HasGroups (stats : StaticStats) : Prop :=
  ∃ value counts, stats.record.find? "Communication groups" = some value ∧
    value.asDistribution? = some counts

theorem exists_groups_iff :
    (∃ groups, stats.total communicationGroups = .ok groups) ↔ stats.HasGroups := by
  have read : ∀ counts, stats.communicationGroups = .ok counts ↔
      ∃ value, stats.record.find? "Communication groups" = some value ∧
        value.asDistribution? = some counts :=
    fun _ => Record.view_eq_ok_iff
  simp only [total, bind_eq_ok_iff, read, HasGroups]
  constructor
  · rintro ⟨_, counts, ⟨value, stored, is⟩, -⟩
    exact ⟨value, counts, stored, is⟩
  · rintro ⟨value, counts, stored, is⟩
    exact ⟨_, counts, ⟨value, stored, is⟩, rfl⟩

theorem perMethod_eq_ok_iff {count : Int64} {density : Float} :
    stats.perMethod count = .ok density ↔
      ∃ methods, stats.methodTotal = .ok methods ∧ (Float.ofInt methods.toInt == 0.0) = false ∧
        density = Float.ofInt count.toInt / Float.ofInt methods.toInt := by
  have unfolded : stats.perMethod count =
      stats.methodTotal.mapError .field >>= fun methods =>
        ratio (Float.ofInt count.toInt) (Float.ofInt methods.toInt) (.methodsOf stats.name) := rfl
  simp only [unfolded, bind_eq_ok_iff, mapError_eq_ok_iff, ratio_eq_ok_iff]

theorem annotationTotal_eq_ok_iff {annotations : Int64} :
    stats.annotationTotal = .ok annotations ↔
      ∃ totals, stats.annotationTotals = .ok totals ∧ totals.sum = annotations := by
  simp only [annotationTotal, map_eq_ok_iff, AnnotationTotals.foldl_toList]

end StaticStats

/-! ### Rows -/

/-- Whether a row shows all annotations of a summary over its methods. -/
def ConcisenessRow.IsOf (stats : StaticStats) (row : ConcisenessRow) : Prop :=
  row.benchmark = stats.name ∧ ∃ annotations methods, stats.Measured annotations methods ∧
    row.annotations = Float.ofInt annotations.toInt / Float.ofInt methods.toInt

/-- Whether a row shows all annotations of a summary. -/
def AnnotationsRow.IsOf (stats : StaticStats) (row : AnnotationsRow) : Prop :=
  row.benchmark = stats.name ∧ stats.annotationTotal = .ok row.total

namespace AnnotationsRow

variable {stats : StaticStats}

theorem of_eq :
    of stats =
      stats.annotationTotals.mapError .field >>= fun totals =>
        stats.perMethod totals.groupMember >>= fun groupMember =>
          stats.perMethod totals.groupDeclaration >>= fun groupDeclaration =>
            stats.perMethod totals.nonCommunicator >>= fun nonCommunicator =>
              stats.perMethod totals.inlining >>= fun inlining =>
                stats.perMethod totals.moduleMember >>= fun moduleMember =>
                  (stats.total StaticStats.communicationGroups).mapError .field >>= fun groups =>
                    .ok ⟨stats.name, groupMember, groupDeclaration, nonCommunicator, inlining,
                      moduleMember, totals.sum, groups⟩ :=
  rfl

/-- **A row by kind can be made** of a summary that is measured and has groups. -/
theorem exists_of_iff :
    (∃ row, of stats = .ok row) ↔
      (∃ annotations methods, stats.Measured annotations methods) ∧ stats.HasGroups := by
  simp only [of_eq, bind_eq_ok_iff, mapError_eq_ok_iff, ← StaticStats.exists_groups_iff]
  constructor
  · rintro ⟨_, totals, counted, _, density, _, -, _, -, _, -, _, -, groups, grouped, -⟩
    obtain ⟨methods, has, nonzero, -⟩ := StaticStats.perMethod_eq_ok_iff.mp density
    have summed := StaticStats.annotationTotal_eq_ok_iff.mpr ⟨_, counted, rfl⟩
    exact ⟨⟨_, methods, summed, has, nonzero⟩, groups, grouped⟩
  · rintro ⟨⟨_, methods, summed, has, nonzero⟩, groups, grouped⟩
    obtain ⟨totals, counted, -⟩ := StaticStats.annotationTotal_eq_ok_iff.mp summed
    have density : ∀ count : Int64,
        stats.perMethod count = .ok (Float.ofInt count.toInt / Float.ofInt methods.toInt) :=
      fun _ => StaticStats.perMethod_eq_ok_iff.mpr ⟨methods, has, nonzero, rfl⟩
    exact ⟨_, totals, counted, _, density _, _, density _, _, density _, _, density _, _,
      density _, groups, grouped, rfl⟩

theorem isOf {row : AnnotationsRow} (made : of stats = .ok row) : row.IsOf stats := by
  simp only [of_eq, bind_eq_ok_iff, mapError_eq_ok_iff] at made
  obtain ⟨totals, counted, _, -, _, -, _, -, _, -, _, -, _, -, done⟩ := made
  obtain rfl := Except.ok.inj done
  exact ⟨rfl, StaticStats.annotationTotal_eq_ok_iff.mpr ⟨totals, counted, rfl⟩⟩

end AnnotationsRow

/-! ### Reports -/

/-- Whether a quotient is that of all annotations over all methods. -/
def IsOverall (summaries : List StaticStats) (overall : Float) : Prop :=
  ∃ annotations methods : StaticStats → Int64,
    (∀ stats ∈ summaries, stats.Measured (annotations stats) (methods stats)) ∧
    (Float.ofInt (totalOf (summaries.map methods)).toInt == 0.0) = false ∧
    overall = Float.ofInt (totalOf (summaries.map annotations)).toInt /
      Float.ofInt (totalOf (summaries.map methods)).toInt

/-- The overall quotient that a report takes of what it has measured. -/
def overallOf (annotations methods : List Int64) : Except ReportError Float :=
  ratio (Float.ofInt (totalOf annotations).toInt) (Float.ofInt (totalOf methods).toInt) .methods

section overall

variable {summaries : List StaticStats} {overall : Float}

/-- Whatever a summary is measured by, the overall quotient is taken of it. -/
theorem isOverall_iff {annotations methods : StaticStats → Int64}
    (measured : ∀ stats ∈ summaries, stats.Measured (annotations stats) (methods stats)) :
    IsOverall summaries overall ↔
      overallOf (summaries.map annotations) (summaries.map methods) = .ok overall := by
  rw [overallOf, ratio_eq_ok_iff]
  constructor
  · rintro ⟨annotations', methods', measured', nonzero, rfl⟩
    have same : ∀ stats ∈ summaries,
        annotations stats = annotations' stats ∧ methods stats = methods' stats :=
      fun stats member => (measured stats member).unique (measured' stats member)
    rw [List.map_congr_left fun stats member => (same stats member).1,
      List.map_congr_left fun stats member => (same stats member).2]
    exact ⟨nonzero, rfl⟩
  · rintro ⟨nonzero, rfl⟩
    exact ⟨annotations, methods, measured, nonzero, rfl⟩

theorem IsOverall.unique {other : Float} (here : IsOverall summaries overall)
    (there : IsOverall summaries other) : overall = other := by
  have same := here
  obtain ⟨_, _, measured, -⟩ := same
  exact Except.ok.inj
    (((isOverall_iff measured).mp here).symm.trans ((isOverall_iff measured).mp there))

/-- **A loop over summaries** in which each round measures annotations and methods takes the overall
quotient of them, if it can. -/
theorem overall_eq_ok_iff {μ : Type} {round : StaticStats → Except ReportError μ}
    {annotations methods : μ → Int64}
    (measures : ∀ {stats result}, round stats = .ok result →
      stats.Measured (annotations result) (methods result))
    {results : List μ} (done : summaries.mapM round = .ok results) :
    overallOf (results.map annotations) (results.map methods) = .ok overall ↔
      IsOverall summaries overall := by
  have each : ∀ stats ∈ summaries, ∃ result, round stats = .ok result :=
    exists_mapM_eq_ok_iff.mp ⟨results, done⟩
  let value (number : μ → Int64) (stats : StaticStats) : Int64 :=
    ((round stats).toOption.map number).getD 0
  have valued : ∀ {number : μ → Int64} {stats result}, round stats = .ok result →
      value number stats = number result := by
    intro number stats result here
    simp only [value, here, Except.toOption, Option.map_some, Option.getD_some]
  have sums : ∀ number : μ → Int64, results.map number = summaries.map (value number) :=
    fun _ => (map_eq_map_of_mapM done fun _ _ here => valued here).symm
  rw [sums, sums, ← isOverall_iff]
  intro stats member
  obtain ⟨result, here⟩ := each stats member
  rw [valued here, valued here]
  exact measures here

end overall

/-- The summaries in the order of the report by kind: those of DaCapo come last. -/
def suiteOrder (summaries : List StaticStats) : List StaticStats :=
  summaries.filter (fun stats => stats.name ∉ ["avrora", "batik", "xalan"]) ++
    summaries.filter fun stats => stats.name ∈ ["avrora", "batik", "xalan"]

theorem suiteOrder_perm (summaries : List StaticStats) : (suiteOrder summaries).Perm summaries := by
  have split := List.filter_append_perm
    (fun stats : StaticStats => decide (stats.name ∈ ["avrora", "batik", "xalan"])) summaries
  simp only [← decide_not] at split
  exact List.perm_append_comm.trans split

namespace ConcisenessReport

variable {summaries : List StaticStats} {report : ConcisenessReport}

/-- One round of the loop: the row of a summary, its annotations and its methods. -/
def round (stats : StaticStats) : Except ReportError (ConcisenessRow × Int64 × Int64) := do
  let annotations ← stats.annotationTotal.mapError .field
  let density ← stats.perMethod annotations
  let methods ← stats.methodTotal.mapError .field
  return (⟨stats.name, density⟩, annotations, methods)

theorem round_eq_ok_iff {stats : StaticStats} {result : ConcisenessRow × Int64 × Int64} :
    round stats = .ok result ↔
      stats.Measured result.2.1 result.2.2 ∧
        result.1 =
          ⟨stats.name, Float.ofInt result.2.1.toInt / Float.ofInt result.2.2.toInt⟩ := by
  obtain ⟨row, annotations, methods⟩ := result
  simp only [round, bind_eq_ok_iff, mapError_eq_ok_iff, StaticStats.perMethod_eq_ok_iff]
  constructor
  · rintro ⟨_, counted, _, ⟨_, has, nonzero, rfl⟩, _, has', done⟩
    obtain rfl := Except.ok.inj (has.symm.trans has')
    cases Except.ok.inj done
    exact ⟨⟨counted, has, nonzero⟩, rfl⟩
  · rintro ⟨⟨counted, has, nonzero⟩, rfl⟩
    exact ⟨_, counted, _, ⟨_, has, nonzero, rfl⟩, _, has, rfl⟩

theorem of_eq_ok_iff_rounds :
    of summaries = .ok report ↔
      ∃ results, summaries.mapM round = .ok results ∧
        overallOf (results.map (·.2.1)) (results.map (·.2.2)) = .ok report.overall ∧
        results.map (·.1) = report.rows := by
  have unfolded : of summaries =
      summaries.mapM round >>= fun results =>
        overallOf (results.map (·.2.1)) (results.map (·.2.2)) >>= fun overall =>
          .ok ⟨results.map (·.1), overall⟩ := rfl
  simp only [unfolded, bind_eq_ok_iff]
  constructor
  · rintro ⟨results, rounds, overall, taken, done⟩
    obtain rfl := Except.ok.inj done
    exact ⟨results, rounds, taken, rfl⟩
  · rintro ⟨results, rounds, taken, rows⟩
    exact ⟨results, rounds, _, taken, by rw [rows]⟩

theorem of_eq_ok (made : of summaries = .ok report) :
    IsOverall summaries report.overall ∧
      List.Forall₂ ConcisenessRow.IsOf summaries report.rows := by
  obtain ⟨results, rounds, taken, rows⟩ := of_eq_ok_iff_rounds.mp made
  refine ⟨(overall_eq_ok_iff (fun here => (round_eq_ok_iff.mp here).1) rounds).mp taken, ?_⟩
  rw [← rows, List.forall₂_map_right_iff]
  refine (mapM_eq_ok_iff.mp rounds).imp fun stats result here => ?_
  obtain ⟨measured, row⟩ := round_eq_ok_iff.mp here
  rw [row]
  exact ⟨rfl, _, _, measured, rfl⟩

theorem exists_of_iff :
    (∃ report, of summaries = .ok report) ↔ ∃ overall, IsOverall summaries overall := by
  constructor
  · rintro ⟨report, made⟩
    exact ⟨_, (of_eq_ok made).1⟩
  · rintro ⟨overall, is⟩
    have each : ∀ stats ∈ summaries, ∃ result, round stats = .ok result := by
      obtain ⟨annotations, methods, measured, -⟩ := is
      intro stats member
      let density := Float.ofInt (annotations stats).toInt / Float.ofInt (methods stats).toInt
      exact ⟨(⟨stats.name, density⟩, _, _), round_eq_ok_iff.mpr ⟨measured stats member, rfl⟩⟩
    obtain ⟨results, rounds⟩ := exists_mapM_eq_ok_iff.mpr each
    have taken := (overall_eq_ok_iff (fun here => (round_eq_ok_iff.mp here).1) rounds).mpr is
    exact ⟨⟨_, _⟩, of_eq_ok_iff_rounds.mpr ⟨results, rounds, taken, rfl⟩⟩

end ConcisenessReport

namespace AnnotationsReport

variable {summaries : List StaticStats} {report : AnnotationsReport}

/-- One round of the loop: the row of a summary and its methods. -/
def round (stats : StaticStats) : Except ReportError (AnnotationsRow × Int64) := do
  let row ← AnnotationsRow.of stats
  let methods ← stats.methodTotal.mapError .field
  return (row, methods)

theorem round_eq_ok_iff {stats : StaticStats} {result : AnnotationsRow × Int64} :
    round stats = .ok result ↔
      AnnotationsRow.of stats = .ok result.1 ∧ stats.methodTotal = .ok result.2 := by
  simp only [round, bind_eq_ok_iff, mapError_eq_ok_iff]
  constructor
  · rintro ⟨_, row, _, has, done⟩
    obtain rfl := Except.ok.inj done
    exact ⟨row, has⟩
  · rintro ⟨row, has⟩
    exact ⟨_, row, _, has, rfl⟩

theorem measures {stats : StaticStats} {result : AnnotationsRow × Int64}
    (made : round stats = .ok result) : stats.Measured result.1.total result.2 := by
  obtain ⟨row, has⟩ := round_eq_ok_iff.mp made
  obtain ⟨⟨annotations, methods, measured⟩, -⟩ := AnnotationsRow.exists_of_iff.mp ⟨_, row⟩
  obtain rfl := Except.ok.inj (measured.annotations_eq.symm.trans (AnnotationsRow.isOf row).2)
  obtain rfl := Except.ok.inj (measured.methods_eq.symm.trans has)
  exact measured

theorem of_eq_ok_iff_rounds :
    of summaries = .ok report ↔
      ∃ results, summaries.mapM round = .ok results ∧
        overallOf (results.map (·.1.total)) (results.map (·.2)) = .ok report.overall ∧
        (results.map (·.1)).filter (fun row => !row.isDaCapo) ++
          (results.map (·.1)).filter AnnotationsRow.isDaCapo = report.rows := by
  have unfolded : of summaries =
      summaries.mapM round >>= fun results =>
        overallOf (results.map (·.1.total)) (results.map (·.2)) >>= fun overall =>
          .ok ⟨(results.map (·.1)).filter (fun row => !row.isDaCapo) ++
            (results.map (·.1)).filter AnnotationsRow.isDaCapo, overall⟩ := rfl
  simp only [unfolded, bind_eq_ok_iff]
  constructor
  · rintro ⟨results, rounds, overall, taken, done⟩
    obtain rfl := Except.ok.inj done
    exact ⟨results, rounds, taken, rfl⟩
  · rintro ⟨results, rounds, taken, rows⟩
    exact ⟨results, rounds, _, taken, by rw [rows]⟩

theorem of_eq_ok (made : of summaries = .ok report) :
    IsOverall summaries report.overall ∧
      List.Forall₂ AnnotationsRow.IsOf (suiteOrder summaries) report.rows := by
  obtain ⟨results, rounds, taken, rows⟩ := of_eq_ok_iff_rounds.mp made
  refine ⟨(overall_eq_ok_iff measures rounds).mp taken, ?_⟩
  have inOrder : List.Forall₂ AnnotationsRow.IsOf summaries (results.map (·.1)) := by
    rw [List.forall₂_map_right_iff]
    exact (mapM_eq_ok_iff.mp rounds).imp fun _ _ here =>
      AnnotationsRow.isOf (round_eq_ok_iff.mp here).1
  rw [← rows, suiteOrder]
  refine List.rel_append (List.rel_filter ?_ inOrder) (List.rel_filter ?_ inOrder)
  · rintro stats row ⟨named, -⟩
    simp [AnnotationsRow.isDaCapo, daCapoBenchmarks, named]
  · rintro stats row ⟨named, -⟩
    simp [AnnotationsRow.isDaCapo, daCapoBenchmarks, named]

theorem exists_of_iff :
    (∃ report, of summaries = .ok report) ↔
      (∃ overall, IsOverall summaries overall) ∧ ∀ stats ∈ summaries, stats.HasGroups := by
  constructor
  · rintro ⟨report, made⟩
    obtain ⟨results, rounds, -⟩ := of_eq_ok_iff_rounds.mp made
    refine ⟨⟨_, (of_eq_ok made).1⟩, fun stats member => ?_⟩
    obtain ⟨result, here⟩ := exists_mapM_eq_ok_iff.mp ⟨results, rounds⟩ stats member
    exact (AnnotationsRow.exists_of_iff.mp ⟨_, (round_eq_ok_iff.mp here).1⟩).2
  · rintro ⟨⟨overall, is⟩, groups⟩
    have each : ∀ stats ∈ summaries, ∃ result, round stats = .ok result := by
      obtain ⟨annotations, methods, measured, -⟩ := is
      intro stats member
      obtain ⟨row, made⟩ :=
        AnnotationsRow.exists_of_iff.mpr ⟨⟨_, _, measured stats member⟩, groups stats member⟩
      exact ⟨(row, _), round_eq_ok_iff.mpr ⟨made, (measured stats member).methods_eq⟩⟩
    obtain ⟨results, rounds⟩ := exists_mapM_eq_ok_iff.mpr each
    have taken := (overall_eq_ok_iff measures rounds).mpr is
    exact ⟨⟨_, _⟩, of_eq_ok_iff_rounds.mpr ⟨results, rounds, taken, rfl⟩⟩

end AnnotationsReport

/-- **The two reports on annotations agree.**  There is a report by kind exactly if there is one on
conciseness and every summary has groups.  Then both have the same overall quotient and rows for the
same summaries, the one in their order and the other with those of DaCapo last, and what a row shows
is read off its summary.  Annotations and methods are added modulo `2 ^ 64` by both. -/
theorem annotation_reports_agree (summaries : List StaticStats) :
    ((∃ report, AnnotationsReport.of summaries = .ok report) ↔
      (∃ report, ConcisenessReport.of summaries = .ok report) ∧
        ∀ stats ∈ summaries, stats.HasGroups) ∧
    (suiteOrder summaries).Perm summaries ∧
    (∀ report, ConcisenessReport.of summaries = .ok report →
      List.Forall₂ ConcisenessRow.IsOf summaries report.rows) ∧
    ∀ report, AnnotationsReport.of summaries = .ok report →
      List.Forall₂ AnnotationsRow.IsOf (suiteOrder summaries) report.rows ∧
        ∀ other, ConcisenessReport.of summaries = .ok other → report.overall = other.overall := by
  refine ⟨?_, suiteOrder_perm summaries, fun report made => (ConcisenessReport.of_eq_ok made).2,
    fun report made => ?_⟩
  · rw [AnnotationsReport.exists_of_iff, ConcisenessReport.exists_of_iff]
  · obtain ⟨overall, rows⟩ := AnnotationsReport.of_eq_ok made
    exact ⟨rows, fun other madeOther => overall.unique (ConcisenessReport.of_eq_ok madeOther).1⟩

/-- A summary with annotations of one kind, methods in one module, and groups of one method. -/
def annotatedSummary (name : String) (annotations methods groups : UInt64) : StaticStats where
  name := name
  record := .ofList [("Total methods", .distribution (.ofList [(1, methods)])),
    ("Group membership annotations", .distribution (.ofList [(1, annotations)])),
    ("Group declaration annotations", .distribution (.ofList [])),
    ("Non-communicator annotations", .distribution (.ofList [])),
    ("Inline annotations", .distribution (.ofList [])),
    ("Module membership annotations", .distribution (.ofList [])),
    ("Communication groups", .distribution (.ofList [(1, groups)]))]

/-- Three summaries, of which the first and the last belong to DaCapo. -/
def annotatedSummaries : List StaticStats :=
  [annotatedSummary "xalan" 1 4 2, annotatedSummary "crypt" 2 2 0, annotatedSummary "batik" 3 2 1]

/-- The report by kind on these summaries, annotations over methods. -/
def annotatedByKind : AnnotationsReport :=
  let row (name : String) (annotations : Int64) (methods : Int) (groups : Int64) :
      AnnotationsRow :=
    ⟨name, Float.ofInt annotations.toInt / Float.ofInt methods,
      Float.ofInt 0 / Float.ofInt methods, Float.ofInt 0 / Float.ofInt methods,
      Float.ofInt 0 / Float.ofInt methods, Float.ofInt 0 / Float.ofInt methods, annotations,
      groups⟩
  ⟨[row "crypt" 2 2 0, row "xalan" 1 4 2, row "batik" 3 2 1], Float.ofInt 6 / Float.ofInt 8⟩

/-- The report on conciseness on these summaries. -/
def annotatedConciseness : ConcisenessReport :=
  ⟨[⟨"xalan", Float.ofInt 1 / Float.ofInt 4⟩, ⟨"crypt", Float.ofInt 2 / Float.ofInt 2⟩,
    ⟨"batik", Float.ofInt 3 / Float.ofInt 2⟩], Float.ofInt 6 / Float.ofInt 8⟩

/-- Six annotations of eight methods are shown by both reports. -/
theorem annotated_summaries_agree :
    annotatedByKind.overall = annotatedConciseness.overall ∧
      List.Forall₂ AnnotationsRow.IsOf (suiteOrder annotatedSummaries) annotatedByKind.rows ∧
      List.Forall₂ ConcisenessRow.IsOf annotatedSummaries annotatedConciseness.rows ∧
      ∀ stats ∈ annotatedSummaries, stats.HasGroups := by
  have byKind : AnnotationsReport.of annotatedSummaries = .ok annotatedByKind := rfl
  have conciseness : ConcisenessReport.of annotatedSummaries = .ok annotatedConciseness := rfl
  obtain ⟨exists_iff, -, rows, agree⟩ := annotation_reports_agree annotatedSummaries
  obtain ⟨rowsByKind, overall⟩ := agree _ byKind
  exact ⟨overall _ conciseness, rowsByKind, rows _ conciseness, (exists_iff.mp ⟨_, byKind⟩).2⟩

end DumpDigest
