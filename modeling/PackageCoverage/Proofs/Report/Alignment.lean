import PackageCoverage.Proofs.Report.Printed
import PackageCoverage.Proofs.Report.ReadingBack
import PackageCoverage.Proofs.Tally.Range

/-!
# Aligned columns

A text that is longer than its column moves what follows it.  In the lines of a report this can
happen to names only, so how wide a line is and where its percent sign stands depends on the
length of the name alone.

* **Percentages.**  No counts of a run have a percentage above a hundred, and `100.0` has five
  characters, so every percentage fits its column (`length_toOneDecimal_percentage_le`).
* **Signs.**  Behind a percentage that fits, the sign stands at the end of the column
  (`Report.signAt_percentCell`).

So the columns of a report line up after every run (`Report.aligned_render`).
-/

namespace PackageCoverage

open Binary64

/-! ## Percentages fit their columns -/

/-- A percentage is shown with at most three digits in front of the point. -/
theorem length_toOneDecimal_percentage_le {covered total : Count}
    (hle : covered.value ≤ total.value) : (percentage covered total).toOneDecimal.length ≤ 5 := by
  have hmagnitude : (percentage covered total).magnitude ≤ (100 : Binary64).magnitude :=
    (le_iff_of_zero_le (zero_le_percentage _ _) (zero_le_ofNat 100)).mp (percentage_le_hundred hle)
  have hhundred : tenths (100 : Binary64).magnitude = 1000 := by decide +kernel
  have htenths : tenths (percentage covered total).magnitude ≤ 1000 :=
    (tenths_mono hmagnitude).trans_eq hhundred
  -- a thousand tenths have three digits in front of the point
  have hwhole :
      (Nat.toDigits 10 (tenths (percentage covered total).magnitude / 10)).length ≤ 3 := by
    rw [Nat.length_toDigits_le_iff (by decide) (by decide)]
    omega
  rw [length_toOneDecimal (isNaN_percentage _ _) (isInfinite_percentage _ _)
    (negative_percentage _ _)]
  omega

namespace Report

variable {row : Row} {percentage : Binary64} {width : ℕ}

/-! ## The place of the sign -/

/-- A line has a percentage and, right behind it, its sign at a position, where the first
character of a line is at position one. -/
structure SignAt (line : String) (percentage : Binary64) (position : ℕ) : Prop where
  sign : line.toList[position - 1]? = some '%'
  before : percentage.toOneDecimal.toList <:+ line.toList.take (position - 1)

theorem length_percentCell (hfits : percentage.toOneDecimal.length ≤ width) :
    (percentCell width percentage).length = width + 1 := by
  rw [percentCell, String.length_append, Text.length_padStart, Nat.max_eq_left hfits]
  rfl

/-- Behind a percentage that fits its column, the sign does not move. -/
theorem signAt_percentCell (front back : String) (hfits : percentage.toOneDecimal.length ≤ width) :
    SignAt (front ++ " " ++ percentCell width percentage ++ back) percentage
      (front.length + width + 2) := by
  let before := front ++ " " ++ Text.padStart width percentage.toOneDecimal
  have hline : (front ++ " " ++ percentCell width percentage ++ back).toList =
      before.toList ++ '%' :: back.toList := by
    simp [percentCell, before]
  have hbefore : before.toList.length = front.length + width + 2 - 1 := by
    rw [String.length_toList, String.length_append, String.length_append, Text.length_padStart,
      Nat.max_eq_left hfits]
    exact Nat.add_right_comm _ _ _
  -- the line is cut right in front of the sign
  constructor
  · rw [hline, ← hbefore, List.getElem?_append_right le_rfl, Nat.sub_self]
    rfl
  · rw [hline, ← hbefore, List.take_left]
    have hpadded : before.toList = (front ++ " " ++
        Text.spaces width percentage.toOneDecimal).toList ++ percentage.toOneDecimal.toList := by
      simp [before, Text.padStart]
    rw [hpadded]
    exact List.suffix_append _ _

/-! ## Lines -/

theorem length_statusCell (status : Status) : (statusCell false status).length = 15 := by
  cases status <;> decide

theorem length_columnHeads : columnHeads.length = 77 := by decide

theorem length_rowLine (hfits : row.percentage.toOneDecimal.length ≤ 9) :
    (rowLine false row).length = max 50 row.name.length + 27 := by
  rw [rowLine, String.length_append, String.length_append, String.length_append,
    String.length_append, Text.length_padEnd, length_percentCell hfits, length_statusCell]
  rfl

theorem signAt_rowLine (hfits : row.percentage.toOneDecimal.length ≤ 9) :
    SignAt (rowLine false row) row.percentage (max 50 row.name.length + 11) := by
  have hsign := signAt_percentCell (Text.padEnd 50 row.name)
    (" " ++ statusCell false row.status) hfits
  rwa [Text.length_padEnd, ← String.append_assoc] at hsign

theorem signAt_belowLine (hfits : row.percentage.toOneDecimal.length ≤ 6) :
    SignAt (belowLine row) row.percentage (max 30 row.name.length + 8) := by
  have hsign := signAt_percentCell (Text.padEnd 30 row.name)
    ("  (need " ++ Text.padStart 4 (toString row.tally.uncovered) ++ " more statements)") hfits
  rwa [Text.length_padEnd, ← String.append_assoc, ← String.append_assoc] at hsign

theorem signAt_overallLine {overall : Tally} (hfits : overall.percentage.toOneDecimal.length ≤ 9) :
    SignAt (overallLine overall) overall.percentage 61 := by
  have hsign := signAt_percentCell (Text.padEnd 50 "Overall") "" hfits
  rwa [String.append_empty] at hsign

/-! ## Tables -/

/-- The columns of a report line up.  In the first table, the name of a row says how wide its line
is and where its sign stands.  Rows whose names fit their column are as wide as the heads of the
columns, and their signs stand above that of the overall line.  In the second table, too, the name
says where the sign stands. -/
structure Aligned (report : Report) : Prop where
  rows : List.Forall₂ (fun line row =>
      line.length = max 50 row.name.length + 27 ∧
        SignAt line row.percentage (max 50 row.name.length + 11))
    (report.tableLines false) report.rows
  heads : ∃ heads, (report.lines false)[2]? = some heads ∧ heads.length = 77
  fitting : List.Forall₂ (fun line row =>
      row.name.length ≤ 50 → line.length = 77 ∧ SignAt line row.percentage 61)
    (report.tableLines false) report.rows
  overall : ∃ line, report.overallLine? false = some line ∧
    SignAt line report.overall.percentage 61
  below : List.Forall₂ (fun line row =>
      SignAt line row.percentage (max 30 row.name.length + 8))
    (report.belowLines false) report.below

theorem aligned_of_fits {report : Report}
    (hrows : ∀ row ∈ report.rows, row.percentage.toOneDecimal.length ≤ 5)
    (hoverall : report.overall.percentage.toOneDecimal.length ≤ 5) : report.Aligned := by
  -- the column of the first table is the wider one
  have hfits : ∀ row ∈ report.rows, row.percentage.toOneDecimal.length ≤ 9 := by
    intro row hrow
    exact (hrows row hrow).trans (by decide)
  constructor
  · rw [tableLines_eq, List.forall₂_map_left_iff, List.forall₂_same]
    intro row hrow
    exact ⟨length_rowLine (hfits row hrow), signAt_rowLine (hfits row hrow)⟩
  · exact ⟨columnHeads, rfl, length_columnHeads⟩
  · rw [tableLines_eq, List.forall₂_map_left_iff, List.forall₂_same]
    intro row hrow hname
    have hlength := length_rowLine (hfits row hrow)
    have hsign := signAt_rowLine (hfits row hrow)
    rw [Nat.max_eq_left hname] at hlength hsign
    exact ⟨hlength, hsign⟩
  · exact ⟨_, overallLine?_eq report false, signAt_overallLine (hoverall.trans (by decide))⟩
  · rw [belowLines_eq, List.forall₂_map_left_iff, List.forall₂_same]
    intro row hrow
    exact signAt_belowLine ((hrows row (List.mem_filter.mp hrow).1).trans (by decide))

/-- **Columns line up.**  After every run that is fed with lines only, for every threshold and
whatever the counts, the lines that the text of the report divides into are aligned. -/
theorem aligned_render {operations : List Coverage.Operation} (path : String)
    (threshold : Binary64) (hlines : ∀ operation ∈ operations, operation.IsOfLines) :
    let report := ofCoverage (Coverage.run path operations) threshold
    (report.render false).toList.splitOn '\n' =
        (report.lines false).map String.toList ++ [[]] ∧
      report.Aligned := by
  intro report
  constructor
  · apply splitOn_render
    intro row hrow
    exact Coverage.isWord_name path threshold hlines hrow
  · apply aligned_of_fits
    · intro row hrow
      rw [(Row.percentage_eq_of_mem hrow).1]
      exact length_toOneDecimal_percentage_le (Coverage.covered_le_of_row hrow)
    · exact length_toOneDecimal_percentage_le (Coverage.covered_le_overall path operations)

/-- A package with a name of 55 characters and as many statements as can be counted has a line of
82 characters. -/
theorem aligned_render_at_limit :
    let operations : List Coverage.Operation := [
      .addLine "p/zähler-zähler-zähler-zähler-zähler-zähler-zähler-zähler/x 18446744073709551615 1",
      .addLine "p/zähler-zähler-zähler-zähler-zähler-zähler-zähler-zähler/y 7 1",
      .rows 75, .addLine "p/50%/z 7 0"]
    let report := ofCoverage (Coverage.run "p" operations) 75
    (∀ operation ∈ operations, operation.IsOfLines) ∧ report.Aligned ∧
      ∃ row ∈ report.rows, row.tally = ⟨.clamp Count.limit, .clamp Count.limit⟩ ∧
        row.name.length = 55 ∧ (rowLine false row).length = 82 := by
  intro operations report
  have hlines : ∀ operation ∈ operations, operation.IsOfLines := by
    simp only [operations, List.forall_mem_cons]
    exact ⟨Coverage.Operation.isOfLines_addLine _, Coverage.Operation.isOfLines_addLine _,
      by simp [Coverage.Operation.IsOfLines], Coverage.Operation.isOfLines_addLine _, by simp⟩
  let entry : String × Tally := ("p/zähler-zähler-zähler-zähler-zähler-zähler-zähler-zähler",
    ⟨.clamp Count.limit, .clamp Count.limit⟩)
  have hentry : entry ∈ (Coverage.run "p" operations).packages.entries := by decide +kernel
  have hrow : Row.ofEntry 75 entry ∈ report.rows :=
    Row.mem_ofTable_iff.mpr ⟨entry, hentry, by decide, rfl⟩
  exact ⟨hlines, (aligned_render "p" 75 hlines).2, _, hrow, rfl, by decide +kernel,
    by decide +kernel⟩

end Report

end PackageCoverage
