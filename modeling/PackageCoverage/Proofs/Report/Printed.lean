import Mathlib.Data.List.DropRight
import Mathlib.Data.List.Forall2
import PackageCoverage.Proofs.Binary64.Decimal
import PackageCoverage.Proofs.Binary64.OneDecimal
import PackageCoverage.Proofs.Package.Uncovered
import PackageCoverage.Proofs.Tally.Accuracy
import PackageCoverage.Proofs.Text.Columns
import PackageCoverage.Report

/-!
# Printed percentages

The percentages of a report are printed with one decimal, and a reader takes them for those of the
counts.  From the counts to the text there are four roundings to binary64 and one to tenths.

* **Text.**  The lines of the two tables and the overall line are found in the text, one after the
  other, between the titles and the rules (`Report.render_eq_join`).
* **Cells.**  Whatever the name of a package is, the percentage in a line is what is in front of
  its last percent sign (`Report.percentText_percentCell`).
* **Error.**  Four roundings change a percentage by less than `10 ^ -13`, and one decimal is half
  a tenth away at most (`Report.prints_of_percentText`).
* **Order.**  Rows are sorted, and larger percentages have no fewer tenths.

So the printed percentages of every report are right to one decimal (`Report.printed_run`).
-/

namespace PackageCoverage.Report

open Binary64

variable {report : Report} {colour : Bool} {tally : Tally} {line : String} {row : Row}

/-! ## Percentages in lines -/

/-- What is in front of the last percent sign of a line, back to the space before it. -/
def percentText (line : String) : List Char :=
  (line.toList.rdropWhile (· ≠ '%')).dropLast.rtakeWhile (· ≠ ' ')

/-- The percentage that is printed in a line. -/
def percentage? (line : String) : Option Decimal := readDecimal? (percentText line)

/-- A line prints the percentage of a tally if it prints a decimal that is at most half a tenth and
`10 ^ -13` away from the exact percentage. -/
def Prints (line : String) (tally : Tally) : Prop :=
  ∃ decimal, percentage? line = some decimal ∧
    |decimal.toRat - tally.exactPercentage| ≤ 1 / 20 + 1 / 10 ^ 13

theorem percentText_eq {before word back : List Char}
    (hline : line.toList = before ++ ' ' :: word ++ '%' :: back) (hword : ' ' ∉ word)
    (hback : '%' ∉ back) : percentText line = word := by
  -- no later sign is met from the end of the line
  have hfront : line.toList.rdropWhile (· ≠ '%') = before ++ ' ' :: word ++ ['%'] := by
    have hskip : ∀ c ∈ back.reverse, decide (c ≠ '%') = true := by
      intro c hc
      rw [decide_eq_true_eq]
      rintro rfl
      exact hback (List.mem_reverse.mp hc)
    rw [hline, List.rdropWhile, List.reverse_append, List.reverse_cons, List.append_assoc,
      List.dropWhile_append_of_pos hskip]
    simp
  have htake : ∀ c ∈ word.reverse, decide (c ≠ ' ') = true := by
    intro c hc
    rw [decide_eq_true_eq]
    rintro rfl
    exact hword (List.mem_reverse.mp hc)
  rw [percentText, hfront, List.dropLast_concat, List.rtakeWhile, List.reverse_append,
    List.reverse_cons, List.append_assoc, List.takeWhile_append_of_pos htake]
  simp

/-- The text of a percentage is read off the line with its cell. -/
theorem percentText_percentCell (front back : String) (width : ℕ) (percentage : Binary64)
    (hback : '%' ∉ back.toList) :
    percentText (front ++ " " ++ percentCell width percentage ++ back) =
      percentage.toOneDecimal.toList := by
  let word := percentage.toOneDecimal.toList
  let padding := List.replicate (width - percentage.toOneDecimal.length) ' '
  have hword : ' ' ∉ word := (isWord_toOneDecimal percentage).not_mem (by decide)
  have hspaces : ' ' :: padding = padding ++ [' '] :=
    List.replicate_succ.symm.trans List.replicate_succ'
  -- the last space is the one in front of the column or one that fills it
  have hline : (front ++ " " ++ percentCell width percentage ++ back).toList =
      front.toList ++ padding ++ ' ' :: word ++ '%' :: back.toList := by
    calc (front ++ " " ++ percentCell width percentage ++ back).toList
        = front.toList ++ ' ' :: padding ++ word ++ '%' :: back.toList := by
          simp [percentCell, Text.padStart, Text.spaces, padding, word]
      _ = front.toList ++ padding ++ ' ' :: word ++ '%' :: back.toList := by
          rw [hspaces]
          simp
  exact percentText_eq hline hword hback

theorem percentText_rowLine (colour : Bool) (row : Row) :
    percentText (rowLine colour row) = row.percentage.toOneDecimal.toList := by
  have hback : '%' ∉ (" " ++ statusCell colour row.status).toList := by
    cases colour <;> cases row.status <;> decide +kernel
  rw [rowLine, String.append_assoc]
  exact percentText_percentCell _ _ 9 row.percentage hback

theorem percentText_belowLine (row : Row) :
    percentText (belowLine row) = row.percentage.toOneDecimal.toList := by
  -- behind the sign there are only words and a number
  have hcount : '%' ∉ (toString row.tally.uncovered).toList := by
    intro hc
    rw [Nat.toString_eq_ofList_toDigits, String.toList_ofList] at hc
    have hdigit := Nat.isDigit_of_mem_toDigits (by decide) (by decide) hc
    exact absurd hdigit (by decide)
  have hback : '%' ∉ ("  (need " ++ (Text.padStart 4 (toString row.tally.uncovered) ++
      " more statements)")).toList := by
    rw [String.toList_append, String.toList_append, List.mem_append, List.mem_append,
      Text.mem_padStart_iff (by decide)]
    rintro (hfront | hpadded | hend)
    · exact absurd hfront (by decide)
    · exact hcount hpadded
    · exact absurd hend (by decide)
  rw [belowLine, String.append_assoc, String.append_assoc]
  exact percentText_percentCell _ _ 6 row.percentage hback

theorem percentText_overallLine (overall : Tally) :
    percentText (overallLine overall) = overall.percentage.toOneDecimal.toList := by
  have hback : '%' ∉ "".toList := by decide
  have htext := percentText_percentCell (Text.padEnd 50 "Overall") "" 9 overall.percentage hback
  rwa [String.append_empty] at htext

/-! ## Lines of a report -/

/-- The lines of the first table, which start behind the heads of its columns. -/
def tableLines (report : Report) (colour : Bool) : List String :=
  ((report.lines colour).drop 4).take report.rows.length

/-- The line with the overall percentage, behind the first table and a rule. -/
def overallLine? (report : Report) (colour : Bool) : Option String :=
  (report.lines colour)[5 + report.rows.length]?

/-- The lines of the second table, which are the last ones. -/
def belowLines (report : Report) (colour : Bool) : List String :=
  (report.lines colour).drop (10 + report.rows.length)

theorem tableLines_eq (report : Report) (colour : Bool) :
    report.tableLines colour = report.rows.map (rowLine colour) := by
  simp [tableLines, lines]

theorem overallLine?_eq (report : Report) (colour : Bool) :
    report.overallLine? colour = some (overallLine report.overall) := by
  have hlength : 5 + report.rows.length = (report.rows.map (rowLine colour)).length + 1 + 4 := by
    rw [List.length_map]
    omega
  rw [overallLine?, hlength]
  simp [lines]

theorem belowLines_eq (report : Report) (colour : Bool) :
    report.belowLines colour = report.below.map belowLine := by
  rw [belowLines, lines]
  refine List.drop_left' ?_
  simp only [List.length_append, List.length_map, List.length_cons, List.length_nil]
  omega

/-- The lines in front of the first table. -/
def headLines (colour : Bool) : List String :=
  [title colour "Coverage by Package:", rule, columnHeads, rule]

/-- The lines between the overall line and the second table. -/
def titleLines (report : Report) (colour : Bool) : List String :=
  ["", "", title colour (belowTitle report.threshold), rule]

/-- The text has the first table behind its heads, a rule, the overall line, and the second table
behind its title, each line with its end. -/
theorem render_eq_join (report : Report) (colour : Bool) :
    report.render colour = String.join ((headLines colour ++ report.tableLines colour ++ [rule] ++
      (report.overallLine? colour).toList ++ report.titleLines colour ++
        report.belowLines colour).map (· ++ "\n")) := by
  have hlines : report.lines colour = headLines colour ++ report.tableLines colour ++ [rule] ++
      (report.overallLine? colour).toList ++ report.titleLines colour ++
        report.belowLines colour := by
    rw [tableLines_eq, overallLine?_eq, belowLines_eq]
    simp [lines, headLines, titleLines]
  rw [render, hlines]

/-! ## Printed percentages -/

theorem percentage?_of_percentText
    (htext : percentText line = tally.percentage.toOneDecimal.toList) :
    percentage? line = some (ofTenths (tenths tally.percentage.magnitude)) := by
  rw [percentage?, htext]
  exact readDecimal?_toOneDecimal (isNaN_percentage _ _) (isInfinite_percentage _ _)
    (negative_percentage _ _)

/-- A line that shows the percentage of counts is right to one decimal. -/
theorem prints_of_percentText (hcovered : tally.covered.value ≤ tally.total.value)
    (hpos : 0 < tally.total.value)
    (htext : percentText line = tally.percentage.toOneDecimal.toList) : Prints line tally := by
  have htenths := abs_toRat_ofTenths_sub_le (zero_le_percentage tally.covered tally.total)
  have hrounded := Tally.abs_percentage_sub_le hcovered hpos
  exact ⟨_, percentage?_of_percentText htext,
    (abs_sub_le _ tally.percentage.toRat _).trans (add_le_add htenths hrounded)⟩

/-- The text of a report has the lines of its two tables and the overall line in it, and the
percentages in them are right to one decimal.  A row that is in both tables has the same text there,
and no percentage in the first table is smaller than the one before. -/
structure Printed (report : Report) (colour : Bool) : Prop where
  text : report.render colour = String.join ((headLines colour ++ report.tableLines colour ++
    [rule] ++ (report.overallLine? colour).toList ++ report.titleLines colour ++
      report.belowLines colour).map (· ++ "\n"))
  rows : List.Forall₂ (fun line row => Prints line row.tally) (report.tableLines colour) report.rows
  below : List.Forall₂ (fun line row => Prints line row.tally) (report.belowLines colour)
    report.below
  overall : 0 < report.overall.total.value →
    ∃ line, report.overallLine? colour = some line ∧ Prints line report.overall
  same_text : ∀ row upper lower, (upper, row) ∈ (report.tableLines colour).zip report.rows →
    (lower, row) ∈ (report.belowLines colour).zip report.below →
      percentText upper = percentText lower
  ascending : (report.tableLines colour).Pairwise fun first second =>
    ∀ decimal₁ ∈ percentage? first, ∀ decimal₂ ∈ percentage? second,
      decimal₁.toRat ≤ decimal₂.toRat

private theorem eq_of_mem_zip_map {toLine : Row → String} {rows : List Row}
    (hmem : (line, row) ∈ (rows.map toLine).zip rows) : line = toLine row := by
  have hzip : (rows.map toLine).zip (rows.map id) = rows.map fun row => (toLine row, row) :=
    List.zip_map'
  rw [List.map_id] at hzip
  rw [hzip] at hmem
  obtain ⟨other, -, heq⟩ := List.mem_map.mp hmem
  obtain ⟨rfl, rfl⟩ := Prod.mk.inj heq
  rfl

/-- A larger percentage is not shown as a smaller decimal. -/
theorem toRat_ofTenths_percentage_mono {first second : Tally}
    (hle : first.percentage ≤ second.percentage) :
    (ofTenths (tenths first.percentage.magnitude)).toRat ≤
      (ofTenths (tenths second.percentage.magnitude)).toRat := by
  have hmagnitude : first.percentage.magnitude ≤ second.percentage.magnitude :=
    (le_iff_of_zero_le (zero_le_percentage _ _) (zero_le_percentage _ _)).mp hle
  rw [toRat_ofTenths, toRat_ofTenths]
  exact div_le_div_of_nonneg_right (Nat.cast_le.mpr (tenths_mono hmagnitude)) (by norm_num)

/-- **Printed percentages are right.**  After every run, for every threshold and with or without
colour, the text has a line for each row of either table and an overall line, their percentages are
right to one decimal, both tables have the same digits for the same row, and the first one is in
ascending order. -/
theorem printed_run (path : String) (operations : List Coverage.Operation) (threshold : Binary64)
    (colour : Bool) : (ofCoverage (Coverage.run path operations) threshold).Printed colour := by
  let report := ofCoverage (Coverage.run path operations) threshold
  have hpercentage : ∀ row ∈ report.rows, row.percentage = row.tally.percentage := by
    intro row hrow
    exact (Row.percentage_eq_of_mem hrow).1
  have hupper : ∀ row ∈ report.rows,
      percentText (rowLine colour row) = row.tally.percentage.toOneDecimal.toList := by
    intro row hrow
    rw [percentText_rowLine, hpercentage row hrow]
  -- a line need not be that of the first table if it has its percentage
  have hprints : ∀ row ∈ report.rows, ∀ line,
      percentText line = percentText (rowLine colour row) → Prints line row.tally := by
    intro row hrow line htext
    exact prints_of_percentText (Coverage.covered_le_of_row hrow) (Row.total_pos_of_mem hrow)
      (htext.trans (hupper row hrow))
  constructor
  · exact render_eq_join report colour
  · rw [tableLines_eq, List.forall₂_map_left_iff, List.forall₂_same]
    intro row hrow
    exact hprints row hrow _ rfl
  · rw [belowLines_eq, List.forall₂_map_left_iff, List.forall₂_same]
    intro row hrow
    refine hprints row (List.mem_filter.mp hrow).1 _ ?_
    rw [percentText_belowLine, percentText_rowLine]
  · intro hpos
    exact ⟨_, overallLine?_eq _ colour, prints_of_percentText
      (Coverage.covered_le_overall path operations) hpos (percentText_overallLine _)⟩
  · intro row upper lower hrow hbelow
    rw [tableLines_eq] at hrow
    rw [belowLines_eq] at hbelow
    rw [eq_of_mem_zip_map hrow, eq_of_mem_zip_map hbelow, percentText_rowLine,
      percentText_belowLine]
  · rw [tableLines_eq, List.pairwise_map]
    refine (Row.pairwise_ofTable _ threshold).imp_of_mem ?_
    intro first second hfirst hsecond hle decimal₁ hdecimal₁ decimal₂ hdecimal₂
    rw [percentage?_of_percentText (hupper first hfirst)] at hdecimal₁
    rw [percentage?_of_percentText (hupper second hsecond)] at hdecimal₂
    obtain rfl := Option.some.inj hdecimal₁
    obtain rfl := Option.some.inj hdecimal₂
    rw [hpercentage first hfirst, hpercentage second hsecond] at hle
    exact toRat_ofTenths_percentage_mono hle

/-- One statement of sixteen is exactly between two tenths, so half a tenth can be missing. -/
example : (percentage (.clamp 1) (.clamp 16)).toOneDecimal = "6.2" := by decide +kernel

end PackageCoverage.Report
