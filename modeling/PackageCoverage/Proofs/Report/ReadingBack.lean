import PackageCoverage.Proofs.Package.History
import PackageCoverage.Proofs.Package.Root
import PackageCoverage.Proofs.Profile.Grammar
import PackageCoverage.Proofs.Report.Characters
import PackageCoverage.Proofs.Report.Rows
import PackageCoverage.Report.Reading

/-!
# Reading a report back

The text of a report leaves no doubt about what it tells, because the name of a package cannot
look like anything else in it.

* **Names.**  The path of a record is a part of one word of its line (`Line.unblank_path`), and
  the name of a package is a segment of a path, so the names of a run that is fed with lines only
  are words (`Coverage.isWord_name`).
* **Lines.**  No line of a report has a line feed in it (`Report.lineFeed_not_mem_lines`), so
  the text divides into its lines again.  A row has a space in its line and a rule has none, so
  the first table ends where the next rule stands.
* **Cells.**  Words in columns are the fields of a line, however far they stand beyond their
  columns (`Report.fields_rowLine`, `Report.fields_belowLine`).

What is read off a text is therefore what the report tells (`Report.ofText_render`), and two
reports with one text tell the same (`Report.told_eq_of_render_eq`).
-/

namespace PackageCoverage

open Text (IsWord)

/-! ## Names -/

/-- The path of a record has no blanks, since it is a part of one word. -/
theorem Line.unblank_path {text : String} {record : Record}
    (hrecord : (read text).record? = some record) :
    ∀ c ∈ record.path.toList, Text.isBlank c = false := by
  obtain ⟨-, hwords, hpath, -, -⟩ := record?_read_eq_some_iff.mp hrecord
  obtain ⟨hlocation, -, -⟩ := hwords
  obtain ⟨span, rfl, -, -⟩ := hpath
  intro c hc
  exact hlocation.isWord.unblank c (List.mem_append_left span hc)

theorem Line.colon_not_mem_path {text : String} {record : Record}
    (hrecord : (read text).record? = some record) : ':' ∉ record.path.toList := by
  obtain ⟨-, -, hpath, -, -⟩ := record?_read_eq_some_iff.mp hrecord
  obtain ⟨span, -, hcolon, -⟩ := hpath
  exact hcolon

namespace Coverage

/-- An operation that hands over nothing but records of lines. -/
def Operation.IsOfLines (operation : Operation) : Prop :=
  ∀ record ∈ operation.handed, ∃ text, (Line.read text).record? = some record

theorem Operation.isOfLines_addLine (text : String) : (addLine text).IsOfLines := by
  intro record hrecord
  exact ⟨text, Option.mem_toList.mp hrecord⟩

theorem Operation.isOfLines_countProfile (bytes : List UInt8) : (countProfile bytes).IsOfLines := by
  intro record hrecord
  obtain ⟨text, -, htext⟩ := List.mem_filterMap.mp hrecord
  exact ⟨text, htext⟩

/-- A row of a run that is fed with lines only is about a package of some line. -/
theorem exists_line_of_row {operations : List Operation} {path : String} {threshold : Binary64}
    (hlines : ∀ operation ∈ operations, operation.IsOfLines) {row : Row}
    (hrow : row ∈ Row.ofTable (run path operations).packages threshold) :
    ∃ text record key, (Line.read text).record? = some record ∧
      (PackageRoot.ofPath path).key? record.path = some key ∧
      PackageRoot.lastSegment key = row.name := by
  obtain ⟨entry, hentry, -, rfl⟩ := Row.mem_ofTable_iff.mp hrow
  have hget := PackageTable.mem_entries_iff.mp hentry
  rw [(reflects_run path operations).get?_eq, PackageRoot.tally?_eq_some_iff] at hget
  obtain ⟨⟨record, hrecord, hkey⟩, -⟩ := hget
  obtain ⟨operation, hoperation, hhanded⟩ := List.mem_flatMap.mp hrecord
  obtain ⟨text, htext⟩ := hlines operation hoperation record hhanded
  exact ⟨text, record, entry.1, htext, hkey, rfl⟩

theorem isWord_name {operations : List Operation} (path : String) (threshold : Binary64)
    (hlines : ∀ operation ∈ operations, operation.IsOfLines) {row : Row}
    (hrow : row ∈ Row.ofTable (run path operations).packages threshold) :
    IsWord row.name.toList := by
  obtain ⟨text, record, key, htext, hkey, hname⟩ := exists_line_of_row hlines hrow
  rw [← hname]
  constructor
  · intro hempty
    exact (PackageRoot.lastSegment_segment hkey).1 (String.toList_eq_nil_iff.mp hempty)
  · intro c hc
    exact Line.unblank_path htext c (PackageRoot.mem_path_of_mem_lastSegment hkey hc)

end Coverage

namespace Report

variable {report : Report} {row : Row}

/-! ## Cells -/

theorem fields_percentCell (width : Nat) (percentage : Binary64) :
    Text.fields (percentCell width percentage).toList =
      [percentage.toOneDecimal.toList ++ ['%']] := by
  have hword : IsWord (percentage.toOneDecimal ++ "%").toList := by
    rw [String.toList_append]
    exact (Binary64.isWord_toOneDecimal percentage).append (by decide)
  rw [percentCell, Text.fields_padStart_append, Text.fields_word hword, String.toList_append]
  rfl

theorem fields_rowLine (hname : IsWord row.name.toList) :
    Text.fields (rowLine false row).toList =
      row.name.toList :: (row.percentage.toOneDecimal.toList ++ ['%']) ::
        Text.fields row.status.label.toList := by
  have hstatus : statusCell false row.status = Text.padStart 15 row.status.label := rfl
  rw [rowLine, hstatus, Text.fields_append_space, Text.fields_append_space,
    Text.fields_padEnd hname, fields_percentCell, Text.fields_padStart]
  rfl

theorem fields_overallLine (overall : Tally) :
    Text.fields (overallLine overall).toList =
      ["Overall".toList, overall.percentage.toOneDecimal.toList ++ ['%']] := by
  rw [overallLine, Text.fields_append_space, Text.fields_padEnd (by decide), fields_percentCell]
  rfl

theorem fields_belowLine (hname : IsWord row.name.toList) :
    Text.fields (belowLine row).toList =
      [row.name.toList, row.percentage.toOneDecimal.toList ++ ['%'], "(need".toList,
        (toString row.tally.uncovered).toList, "more".toList, "statements)".toList] := by
  -- the two spaces are one blank and one that pads the next word
  have hline : belowLine row =
      Text.padEnd 30 row.name ++ " " ++ percentCell 6 row.percentage ++ " " ++ " (need" ++ " " ++
        Text.padStart 4 (toString row.tally.uncovered) ++ " " ++ "more statements)" :=
    String.toList_inj.mp (by simp [belowLine])
  have hneed : Text.fields " (need".toList = ["(need".toList] := by decide
  have hmore : Text.fields "more statements)".toList = ["more".toList, "statements)".toList] := by
    decide
  simp only [hline, Text.fields_append_space, Text.fields_padEnd hname, fields_percentCell,
    Text.fields_padStart, Text.fields_word (Text.isWord_toString _), hneed, hmore]
  rfl

/-! ## What single lines tell -/

namespace Told

theorem percentageOf_append (percentage : String) :
    percentageOf (percentage.toList ++ ['%']) = percentage := by
  rw [percentageOf, List.dropLast_concat, String.ofList_toList]

theorem rowOf_rowLine (hname : IsWord row.name.toList) :
    rowOf (rowLine false row).toList = (row.name, row.percentage.toOneDecimal, row.status) := by
  have hstatus : (if Text.fields row.status.label.toList = Text.fields Status.good.label.toList
      then Status.good else Status.needsWork) = row.status := by
    cases row.status <;> decide
  unfold rowOf
  rw [fields_rowLine hname]
  dsimp only
  rw [percentageOf_append, hstatus, String.ofList_toList]

theorem overallOf_overallLine (overall : Tally) :
    overallOf (overallLine overall).toList = overall.percentage.toOneDecimal := by
  unfold overallOf
  rw [fields_overallLine]
  exact percentageOf_append _

theorem belowOf_belowLine (hname : IsWord row.name.toList) :
    belowOf (belowLine row).toList = (row.name, row.tally.uncovered) := by
  unfold belowOf
  rw [fields_belowLine hname]
  dsimp only
  rw [String.ofList_toList, Nat.toString_eq_ofList_toDigits, String.toList_ofList,
    Nat.ofDigitChars_ten_toDigits]

end Told

/-! ## Lines -/

theorem toList_rule : rule.toList = List.replicate 80 '-' := String.toList_ofList

theorem ne_rule_of_mem {line : String} (hspace : ' ' ∈ line.toList) : line ≠ rule := by
  rintro rfl
  rw [toList_rule] at hspace
  exact absurd (List.eq_of_mem_replicate hspace) (by decide)

theorem rowLine_ne_rule (row : Row) : rowLine false row ≠ rule := by
  apply ne_rule_of_mem
  simp [rowLine]

theorem belowLine_ne_rule (row : Row) : belowLine row ≠ rule := by
  apply ne_rule_of_mem
  simp [belowLine]

theorem isCells_rowLine (row : Row) : Told.isCells (rowLine false row).toList = true := by
  rw [Told.isCells, decide_eq_true_eq]
  intro heq
  exact rowLine_ne_rule row (String.toList_inj.mp heq)

theorem isCells_rule : Told.isCells rule.toList = false := by simp [Told.isCells]

/-- Names that are words have no line feeds, so the lines have none either. -/
theorem lineFeed_not_mem_lines (hnames : ∀ row ∈ report.rows, IsWord row.name.toList) :
    ∀ line ∈ report.lines false, '\n' ∉ line.toList := by
  apply control_not_mem_lines (by decide)
  intro row hrow
  exact (hnames row hrow).not_mem (by decide)

theorem length_lines (report : Report) (colour : Bool) :
    (report.lines colour).length = 10 + report.rows.length + report.below.length := by
  simp only [lines, List.length_append, List.length_map, List.length_cons, List.length_nil]
  omega

/-! ## The text -/

theorem splitOn_render (hnames : ∀ row ∈ report.rows, IsWord row.name.toList) :
    (report.render false).toList.splitOn '\n' =
      (report.lines false).map String.toList ++ [[]] :=
  Text.splitOn_join (lineFeed_not_mem_lines hnames)

theorem ofText_render (hnames : ∀ row ∈ report.rows, IsWord row.name.toList) :
    Told.ofText (report.render false) = report.told := by
  -- behind the heads of its columns, the first table goes on to the rule
  have htable : ((report.render false).toList.splitOn '\n').drop 4 =
      report.rows.map (fun row => (rowLine false row).toList) ++
        rule.toList :: (overallLine report.overall).toList :: [] :: [] ::
          (belowTitle report.threshold).toList :: rule.toList ::
            (report.below.map (fun row => (belowLine row).toList) ++ [[]]) := by
    rw [splitOn_render hnames]
    simp [lines, title, Style.paintIf, Function.comp_def]
  have hcells : ∀ line ∈ report.rows.map (fun row => (rowLine false row).toList),
      Told.isCells line = true := by
    intro line hline
    obtain ⟨row, -, rfl⟩ := List.mem_map.mp hline
    exact isCells_rowLine row
  have hrows : (report.rows.map fun row => (rowLine false row).toList).map Told.rowOf =
      report.rows.map fun row => (row.name, row.percentage.toOneDecimal, row.status) := by
    rw [List.map_map]
    refine List.map_congr_left fun row hrow => ?_
    exact Told.rowOf_rowLine (hnames row hrow)
  have hbelow : (report.below.map fun row => (belowLine row).toList).map Told.belowOf =
      report.below.map fun row => (row.name, row.tally.uncovered) := by
    rw [List.map_map]
    refine List.map_congr_left fun row hrow => ?_
    exact Told.belowOf_belowLine (hnames row (List.mem_filter.mp hrow).1)
  unfold Told.ofText told
  dsimp only
  rw [htable, List.takeWhile_append_of_pos hcells, List.dropWhile_append_of_pos hcells,
    List.takeWhile_cons_of_neg (by simp [isCells_rule]),
    List.dropWhile_cons_of_neg (by simp [isCells_rule]), List.append_nil, hrows]
  simp only [List.drop_succ_cons, List.drop_zero, List.headD_cons, List.dropLast_concat,
    Told.overallOf_overallLine, hbelow]

/-- **A report can be read back.**  If two runs were fed with lines only, their reports have the
same text only if they tell the same: the same names, percentages and statuses of the rows, the
same overall percentage, and the same packages below the threshold with the same numbers of
statements that they lack.  The text of such a report has ten lines and one for each row of either
table, and each of them ends with a line feed; no line of a row of either table is a rule. -/
theorem told_eq_of_render_eq {operations₁ operations₂ : List Coverage.Operation}
    (path₁ path₂ : String) (threshold : Binary64)
    (hlines₁ : ∀ operation ∈ operations₁, operation.IsOfLines)
    (hlines₂ : ∀ operation ∈ operations₂, operation.IsOfLines) :
    let first := ofCoverage (Coverage.run path₁ operations₁) threshold
    let second := ofCoverage (Coverage.run path₂ operations₂) threshold
    (first.render false = second.render false → first.told = second.told) ∧
      (first.render false).toList.splitOn '\n' = (first.lines false).map String.toList ++ [[]] ∧
      (first.lines false).length = 10 + first.rows.length + first.below.length ∧
      (∀ row ∈ first.rows, rowLine false row ≠ rule) ∧
      ∀ row ∈ first.below, belowLine row ≠ rule := by
  intro first second
  have hfirst : ∀ row ∈ first.rows, IsWord row.name.toList := by
    intro row hrow
    exact Coverage.isWord_name path₁ threshold hlines₁ hrow
  have hsecond : ∀ row ∈ second.rows, IsWord row.name.toList := by
    intro row hrow
    exact Coverage.isWord_name path₂ threshold hlines₂ hrow
  refine ⟨?_, splitOn_render hfirst, length_lines first false, ?_, ?_⟩
  · intro htext
    rw [← ofText_render hfirst, ← ofText_render hsecond, htext]
  · intro row _
    exact rowLine_ne_rule row
  · intro row _
    exact belowLine_ne_rule row

theorem ofCoverage_of_entries_eq_singleton {coverage : Coverage} {entry : String × Tally}
    (threshold : Binary64) (hentries : coverage.packages.entries = [entry])
    (htotal : entry.2.total.value ≠ 0) :
    ofCoverage coverage threshold = ⟨[Row.ofEntry threshold entry], entry.2, threshold⟩ := by
  have hrows : Row.ofTable coverage.packages threshold = [Row.ofEntry threshold entry] := by
    rw [Row.ofTable, hentries]
    simp [htotal]
  have hoverall : coverage.overall = entry.2 := by
    rw [Coverage.overall, PackageTable.overall, hentries]
    simp
  rw [ofCoverage, hrows, hoverall]

/-- Two runs with different counts under different roots have one text, since the percentages do
not differ in their first decimal. -/
theorem told_eq_of_render_eq_rounded :
    let first := ofCoverage (Coverage.run "pkg/"
      [.countProfile "mode: set\npkg/a/x.go:1 750 1\npkg/a/y.go:1 250 0".toUTF8.toList]) 75
    let second := ofCoverage (Coverage.run "lib"
      [.addLine "lib/a/x.go 7501 2", .rows 50, .addLine "lib/a/z.go:9 2500 0\r"]) 75
    first.render false = second.render false ∧ first.overall ≠ second.overall ∧
      first.told = second.told := by
  intro first second
  have hfirst : first = ⟨[Row.ofEntry 75 ("pkg/a", ⟨.clamp 1000, .clamp 750⟩)],
      ⟨.clamp 1000, .clamp 750⟩, 75⟩ :=
    ofCoverage_of_entries_eq_singleton 75 (by decide +kernel) (by decide)
  have hsecond : second = ⟨[Row.ofEntry 75 ("lib/a", ⟨.clamp 10001, .clamp 7501⟩)],
      ⟨.clamp 10001, .clamp 7501⟩, 75⟩ :=
    ofCoverage_of_entries_eq_singleton 75 (by decide +kernel) (by decide)
  have htext : first.render false = second.render false := by
    rw [hfirst, hsecond]
    decide +kernel
  refine ⟨htext, ?_, ?_⟩
  · rw [hfirst, hsecond]
    decide
  · refine (told_eq_of_render_eq "pkg/" "lib" 75 ?_ ?_).1 htext
    · simp only [List.forall_mem_cons]
      exact ⟨Coverage.Operation.isOfLines_countProfile _, by simp⟩
    · simp only [List.forall_mem_cons]
      exact ⟨Coverage.Operation.isOfLines_addLine _, by simp [Coverage.Operation.IsOfLines],
        Coverage.Operation.isOfLines_addLine _, by simp⟩

end Report

end PackageCoverage
