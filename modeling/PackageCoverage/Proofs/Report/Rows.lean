import PackageCoverage.Proofs.Binary64.Order
import PackageCoverage.Proofs.Package.History
import PackageCoverage.Proofs.Package.Root
import PackageCoverage.Proofs.Tally.Percentage
import PackageCoverage.Run

/-!
# Rows and the threshold

A report compares percentages in three places: the total order puts the rows in order, a
status asks whether the threshold is met, and the second table asks whether a percentage is
below the threshold.  Percentages are numbers without a sign, so the three agree as long
as the threshold is a number.

* **Order.**  Rows go from the lowest percentage to the highest (`Row.pairwise_ofTable`).
* **Status.**  A row needs work just when it is below the threshold
  (`Row.isBelow_iff_needsWork`), and rows in front of such a row do so too.
* **Names.**  The packages of a run are under one root and have different names
  (`Row.nodup_names_run`).

The rows of every run therefore divide at the threshold (`Report.exists_divided`).
-/

namespace PackageCoverage

namespace Row

variable {packages : PackageTable} {threshold : Binary64} {row : Row}

/-! ## Rows of a table -/

theorem ofTable_perm (packages : PackageTable) (threshold : Binary64) :
    (ofTable packages threshold).Perm
      ((packages.entries.filter fun entry => entry.2.total.value ≠ 0).map (ofEntry threshold)) :=
  List.mergeSort_perm _ _

theorem mem_ofTable_iff :
    row ∈ ofTable packages threshold ↔
      ∃ entry ∈ packages.entries, entry.2.total.value ≠ 0 ∧ ofEntry threshold entry = row := by
  simp [ofTable, and_assoc]

/-- The percentage of a row is that of its tally, and the status compares it with the
threshold. -/
theorem percentage_eq_of_mem (hmem : row ∈ ofTable packages threshold) :
    row.percentage = row.tally.percentage ∧
      row.status = .ofPercentage row.tally.percentage threshold := by
  obtain ⟨entry, -, -, rfl⟩ := mem_ofTable_iff.mp hmem
  exact ⟨rfl, rfl⟩

theorem total_pos_of_mem (hmem : row ∈ ofTable packages threshold) : 0 < row.tally.total.value := by
  obtain ⟨entry, -, htotal, rfl⟩ := mem_ofTable_iff.mp hmem
  exact Nat.pos_of_ne_zero htotal

theorem isNaN_percentage_of_mem (hmem : row ∈ ofTable packages threshold) :
    row.percentage.isNaN = false := by
  rw [(percentage_eq_of_mem hmem).1]
  exact isNaN_percentage _ _

theorem negative_percentage_of_mem (hmem : row ∈ ofTable packages threshold) :
    row.percentage.negative = false := by
  rw [(percentage_eq_of_mem hmem).1]
  exact negative_percentage _ _

/-! ## Order -/

theorem precedes_trans (first second third : Row)
    (hfirst : first.percentage.precedes second.percentage)
    (hsecond : second.percentage.precedes third.percentage) :
    first.percentage.precedes third.percentage :=
  Binary64.precedes_trans hfirst hsecond

theorem precedes_total (first second : Row) :
    first.percentage.precedes second.percentage || second.percentage.precedes first.percentage :=
  Binary64.precedes_total first.percentage second.percentage

theorem pairwise_ofTable (packages : PackageTable) (threshold : Binary64) :
    (ofTable packages threshold).Pairwise fun first second =>
      first.percentage ≤ second.percentage := by
  have hsorted : (ofTable packages threshold).Pairwise fun first second =>
      first.percentage.precedes second.percentage := by
    exact List.pairwise_mergeSort precedes_trans precedes_total _
  refine hsorted.imp_of_mem ?_
  intro first second hfirst hsecond hprecedes
  exact (Binary64.precedes_iff_le (isNaN_percentage_of_mem hfirst)
    (negative_percentage_of_mem hfirst) (isNaN_percentage_of_mem hsecond)
    (negative_percentage_of_mem hsecond)).mp hprecedes

/-! ## Status -/

theorem ofPercentage_eq_good_iff {percentage : Binary64} :
    Status.ofPercentage percentage threshold = .good ↔ threshold ≤ percentage := by
  unfold Status.ofPercentage
  split <;> simp_all

theorem ofPercentage_eq_needsWork_iff {percentage : Binary64}
    (hpercentage : percentage.isNaN = false) (hthreshold : threshold.isNaN = false) :
    Status.ofPercentage percentage threshold = .needsWork ↔ percentage < threshold := by
  rw [← Binary64.not_le_iff_lt hthreshold hpercentage, Status.ofPercentage]
  split <;> simp_all

/-- A row is listed again just when it needs work. -/
theorem isBelow_iff_needsWork (hthreshold : threshold.isNaN = false)
    (hmem : row ∈ ofTable packages threshold) :
    row.isBelow threshold = true ↔ row.status = .needsWork := by
  obtain ⟨hpercentage, hstatus⟩ := percentage_eq_of_mem hmem
  rw [hstatus, ← hpercentage,
    ofPercentage_eq_needsWork_iff (isNaN_percentage_of_mem hmem) hthreshold, isBelow,
    decide_eq_true_eq]

theorem isBelow_of_le {first second : Row} (hle : first.percentage ≤ second.percentage)
    (hbelow : second.isBelow threshold = true) : first.isBelow threshold = true := by
  rw [isBelow, decide_eq_true_eq] at *
  exact Binary64.lt_of_le_of_lt hle hbelow

/-! ## Names -/

/-- The names of packages under one root are different. -/
theorem nodup_names (root : PackageRoot) (threshold : Binary64)
    (hkeys : ∀ entry ∈ packages.entries, ∃ path, root.key? path = some entry.1) :
    ((ofTable packages threshold).map name).Nodup := by
  -- a name tells its key, and no key comes twice
  have hnames : (packages.entries.map fun entry => PackageRoot.lastSegment entry.1).Nodup := by
    refine List.Nodup.of_map (fun name => String.ofList (root.stem ++ name.toList)) ?_
    have hmap : (packages.entries.map fun entry => PackageRoot.lastSegment entry.1).map
        (fun name => String.ofList (root.stem ++ name.toList)) = packages.entries.map Prod.fst := by
      rw [List.map_map]
      refine List.map_congr_left fun entry hentry => ?_
      obtain ⟨path, hpath⟩ := hkeys entry hentry
      exact PackageRoot.stem_append_lastSegment hpath
    rw [hmap]
    exact packages.nodup_keys
  -- sorting and leaving packages out brings no name back
  refine ((ofTable_perm packages threshold).map name).nodup_iff.mpr ?_
  rw [List.map_map]
  exact hnames.sublist (List.filter_sublist.map _)

theorem nodup_names_run (path : String) (operations : List Coverage.Operation)
    (threshold : Binary64) :
    ((ofTable (Coverage.run path operations).packages threshold).map name).Nodup := by
  refine nodup_names (.ofPath path) threshold ?_
  intro entry hentry
  exact (Coverage.reflects_run path operations).exists_path hentry

end Row

/-! ## Division at the threshold -/

/-- Rows of which some condition holds only in front are those in front and those behind. -/
private theorem filter_append_filter_not {α : Type} {condition : α → Bool} {rows : List α}
    (hfront : rows.Pairwise fun first second => condition second → condition first) :
    rows.filter condition ++ rows.filter (fun row => !condition row) = rows := by
  induction rows with
  | nil => rfl
  | cons row later ih =>
      obtain ⟨hrow, hlater⟩ := List.pairwise_cons.mp hfront
      by_cases hcondition : condition row = true
      · simpa [hcondition] using ih hlater
      · have hnone : later.filter condition = [] :=
          List.filter_eq_nil_iff.mpr fun other hother hholds =>
            hcondition (hrow other hother hholds)
        simpa [hcondition, hnone] using ih hlater

/-- Settings that make sense have a number as the threshold. -/
theorem Config.isNaN_threshold_of_validated {config accepted : Config}
    (hvalidated : config.validated = .ok accepted) : accepted.threshold.isNaN = false := by
  unfold Config.validated at hvalidated
  split at hvalidated
  · simp at hvalidated
  · split at hvalidated
    case isTrue hthreshold =>
        obtain rfl : config = accepted := by simpa using hvalidated
        exact hthreshold.1.2.1
    case isFalse => simp at hvalidated

namespace Report

/-- The rows of a report are those of the second table, in the same order, and behind them
those that are good.  No package is in two rows. -/
structure Divided (report : Report) (lower upper : List Row) : Prop where
  rows_eq : report.rows = lower ++ upper
  needsWork : ∀ row ∈ lower, row.status = .needsWork
  good : ∀ row ∈ upper, row.status = .good
  below_eq : report.below = lower
  render_eq : ∀ colour, ∃ front, report.render colour = front ++
    String.join ((title colour (belowTitle report.threshold) :: rule :: lower.map belowLine).map
      (· ++ "\n"))
  nodup_names : (report.rows.map Row.name).Nodup

/-- The text ends with the second table, which has a line for each row below the threshold. -/
theorem render_ends_with_below (report : Report) (colour : Bool) :
    ∃ front, report.render colour = front ++
      String.join ((title colour (belowTitle report.threshold) :: rule ::
        report.below.map belowLine).map (· ++ "\n")) := by
  have hlines : report.lines colour =
      ([title colour "Coverage by Package:", rule, columnHeads, rule] ++
        report.rows.map (rowLine colour) ++ [rule, overallLine report.overall, "", ""]) ++
      title colour (belowTitle report.threshold) :: rule :: report.below.map belowLine := by
    simp [lines]
  rw [render, hlines, List.map_append, String.join_append]
  exact ⟨_, rfl⟩

/-- **The two tables agree.**  After every run, and for every threshold that is a number,
as the threshold of settings that make sense is, the rows divide into those that need work,
which the second table lists once each and in the same order, and those that are good. -/
theorem exists_divided (path : String) (operations : List Coverage.Operation)
    {threshold : Binary64} (hthreshold : threshold.isNaN = false ∨
      ∃ config accepted, Config.validated config = .ok accepted ∧ accepted.threshold = threshold) :
    ∃ lower upper, (ofCoverage (Coverage.run path operations) threshold).Divided lower upper := by
  have hnumber : threshold.isNaN = false := by
    rcases hthreshold with hnumber | ⟨config, accepted, hvalidated, rfl⟩
    · exact hnumber
    · exact Config.isNaN_threshold_of_validated hvalidated
  let rows := Row.ofTable (Coverage.run path operations).packages threshold
  -- rows are sorted, so those below the threshold are in front of the others
  have hdivision : rows.filter (Row.isBelow threshold) ++
      rows.filter (fun row => !row.isBelow threshold) = rows :=
    filter_append_filter_not ((Row.pairwise_ofTable _ threshold).imp Row.isBelow_of_le)
  refine ⟨rows.filter (Row.isBelow threshold), rows.filter fun row => !row.isBelow threshold, {
    rows_eq := hdivision.symm
    needsWork := fun row hrow => ?_
    good := fun row hrow => ?_
    below_eq := rfl
    render_eq := render_ends_with_below _
    nodup_names := Row.nodup_names_run path operations threshold }⟩
  · obtain ⟨hmem, hbelow⟩ := List.mem_filter.mp hrow
    exact (Row.isBelow_iff_needsWork hnumber hmem).mp hbelow
  · obtain ⟨hmem, hnotBelow⟩ := List.mem_filter.mp hrow
    cases hstatus : row.status with
    | good => rfl
    | needsWork =>
        rw [(Row.isBelow_iff_needsWork hnumber hmem).mpr hstatus] at hnotBelow
        simp at hnotBelow

/-- A run that adds a record and a line, counts a list and asks for a report in between. -/
theorem exists_divided_of_four_uses :
    ∃ lower upper, (ofCoverage (Coverage.run "pkg/" [
      .add ⟨"pkg/a/x.go", .clamp 4, .clamp 1⟩, .addLine "pkg/b/y.go:1.1,2.2 3 0",
      .render 50 true, .countAll [⟨"pkg/a/x.go", .clamp 1, .clamp 0⟩]]) 75).Divided lower upper :=
  exists_divided "pkg/" _ (.inl (Binary64.isNaN_ofNat 75))

end Report

end PackageCoverage
