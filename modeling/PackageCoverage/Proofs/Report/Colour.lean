import Mathlib.Data.List.Forall2
import PackageCoverage.Proofs.Report.Characters
import PackageCoverage.Proofs.Report.Painting

/-!
# Colour adds only colour

The two titles and the status cells of a report are painted.  Each line is made of pieces
(`Report.linePieces`), no text of which has the escape character unless the name of a package has
it.  What a terminal makes of a report therefore follows from what it makes of pieces.

* **Text.**  Cells are padded before they are painted, so the pieces are those of the text without
  colour (`Report.join_linePieces`).
* **Spans.**  The painted pieces are the first title, the status cells of the rows, and the title
  of the second table, in this order (`Report.exists_spansOf`).
-/

namespace PackageCoverage.Report

open Style (Piece Span)

variable {report : Report} {row : Row}

/-! ## Pieces of a report -/

/-- What stands in front of the status of a row in the first table. -/
def cells (row : Row) : String :=
  Text.padEnd 50 row.name ++ " " ++ percentCell 9 row.percentage ++ " "

/-- The pieces of a row in the first table. -/
def rowPieces (row : Row) : List Piece :=
  [.plain (cells row), .painted (statusStyle row.status) (Text.padStart 15 row.status.label)]

/-- The only piece of a row in the second table. -/
def belowPieces (row : Row) : List Piece := [.plain (belowLine row)]

/-- The pieces of the lines in front of the rows. -/
def upperPieces : List (List Piece) :=
  [[.painted .bold "Coverage by Package:"], [.plain rule], [.plain columnHeads], [.plain rule]]

/-- The pieces of the lines between the rows of the two tables. -/
def middlePieces (report : Report) : List (List Piece) :=
  [[.plain rule], [.plain (overallLine report.overall)], [.plain ""], [.plain ""],
    [.painted .bold (belowTitle report.threshold)], [.plain rule]]

/-- The pieces of the lines of a report. -/
def linePieces (report : Report) : List (List Piece) :=
  upperPieces ++ report.rows.map rowPieces ++ report.middlePieces ++ report.below.map belowPieces

/-- The pieces of lines, with a line feed behind each line. -/
def endLines (lines : List (List Piece)) : List Piece :=
  lines.flatMap fun line => line ++ [Piece.plain "\n"]

theorem endLines_append (front back : List (List Piece)) :
    endLines (front ++ back) = endLines front ++ endLines back := List.flatMap_append

theorem map_join_linePieces (report : Report) (colour : Bool) :
    report.linePieces.map (fun line => String.join (line.map (Piece.text colour))) =
      report.lines colour := by
  simp [linePieces, upperPieces, middlePieces, lines, rowPieces, belowPieces, Piece.text, title,
    rowLine, cells, statusCell, Function.comp_def, String.join_cons]

theorem join_endLines (lines : List (List Piece)) (colour : Bool) :
    String.join ((endLines lines).map (Piece.text colour)) =
      String.join ((lines.map fun line => String.join (line.map (Piece.text colour))).map
        (· ++ "\n")) := by
  induction lines with
  | nil => rfl
  | cons line later ih =>
      have hend : String.join ([Piece.plain "\n"].map (Piece.text colour)) = "\n" := rfl
      rw [endLines, List.flatMap_cons, List.map_append, List.map_append, String.join_append,
        String.join_append, hend, ← endLines, ih, List.map_cons, List.map_cons, String.join_cons]

theorem join_linePieces (report : Report) (colour : Bool) :
    String.join ((endLines report.linePieces).map (Piece.text colour)) = report.render colour := by
  rw [join_endLines, map_join_linePieces, render]

theorem countP_endLines_map (toPieces : Row → List Piece) (count : Nat)
    (hcount : ∀ row, (toPieces row).countP Piece.isPainted = count) (rows : List Row) :
    (endLines (rows.map toPieces)).countP Piece.isPainted = count * rows.length := by
  induction rows with
  | nil => rfl
  | cons row rest ih =>
      rw [List.map_cons, endLines, List.flatMap_cons, List.countP_append, List.countP_append,
        hcount, ← endLines, ih, List.length_cons, Nat.mul_succ]
      exact Nat.add_comm count _

/-- There is one painted piece for each title and one for each row. -/
theorem countP_linePieces (report : Report) :
    (endLines report.linePieces).countP Piece.isPainted = 2 + report.rows.length := by
  rw [linePieces, endLines_append, endLines_append, endLines_append, List.countP_append,
    List.countP_append, List.countP_append, countP_endLines_map rowPieces 1 fun _ => rfl,
    countP_endLines_map belowPieces 0 fun _ => rfl]
  show 1 + 1 * report.rows.length + 1 + 0 * report.below.length = 2 + report.rows.length
  omega

theorem isReadable_rowPieces (hname : Style.escape ∉ row.name.toList) :
    ∀ piece ∈ rowPieces row, piece.IsReadable := by
  have hline : Style.escape ∉ (cells row ++ Text.padStart 15 row.status.label).toList :=
    control_not_mem_rowLine (by decide) hname
  rw [String.toList_append, List.mem_append, not_or] at hline
  have hstyle : (statusStyle row.status).numbers.toList.all Char.isDigit = true := by
    cases row.status <;> decide
  intro piece hpiece
  rcases List.mem_pair.mp hpiece with rfl | rfl
  · exact hline.1
  · exact ⟨hline.2, hstyle⟩

/-- No piece of a report is taken for a sequence unless a name is. -/
theorem isReadable_of_mem_linePieces
    (hnames : ∀ row ∈ report.rows, Style.escape ∉ row.name.toList) :
    ∀ piece ∈ endLines report.linePieces, piece.IsReadable := by
  have hcontrol : Text.isControl Style.escape = true := by decide
  have hfirst : (Piece.painted .bold "Coverage by Package:").IsReadable :=
    ⟨Text.control_not_mem hcontrol (by decide), by decide⟩
  have hsecond : (Piece.painted .bold (belowTitle report.threshold)).IsReadable :=
    ⟨control_not_mem_belowTitle hcontrol report.threshold, by decide⟩
  have hrule : (Piece.plain rule).IsReadable := control_not_mem_rule hcontrol
  have hheads : (Piece.plain columnHeads).IsReadable := control_not_mem_columnHeads hcontrol
  have hempty : (Piece.plain "").IsReadable := Text.control_not_mem hcontrol (by decide)
  have hoverall : (Piece.plain (overallLine report.overall)).IsReadable :=
    control_not_mem_overallLine hcontrol report.overall
  have hrows : ∀ line ∈ report.rows.map rowPieces, ∀ piece ∈ line, piece.IsReadable := by
    intro line hline
    obtain ⟨row, hrow, rfl⟩ := List.mem_map.mp hline
    exact isReadable_rowPieces (hnames row hrow)
  have hbelow : ∀ line ∈ report.below.map belowPieces, ∀ piece ∈ line, piece.IsReadable := by
    intro line hline piece hpiece
    obtain ⟨row, hrow, rfl⟩ := List.mem_map.mp hline
    rw [List.mem_singleton.mp hpiece]
    exact control_not_mem_belowLine hcontrol (hnames row (List.mem_filter.mp hrow).1)
  -- the lines from the first to the last, piece by piece
  have hlines : ∀ line ∈ report.linePieces, ∀ piece ∈ line, piece.IsReadable := by
    simp only [linePieces, upperPieces, middlePieces, List.forall_mem_append, List.forall_mem_cons,
      List.not_mem_nil, IsEmpty.forall_iff, implies_true, and_true]
    exact ⟨⟨⟨⟨hfirst, hrule, hheads, hrule⟩, hrows⟩,
      hrule, hoverall, hempty, hempty, hsecond, hrule⟩, hbelow⟩
  intro piece hpiece
  obtain ⟨line, hline, hpiece⟩ := List.mem_flatMap.mp hpiece
  rcases List.mem_append.mp hpiece with hpiece | hend
  · exact hlines line hline piece hpiece
  · rw [List.mem_singleton.mp hend]
    show Style.escape ∉ "\n".toList
    decide

/-! ## Spans of a report -/

/-- The painted status cell of a row.  It fills its column behind the cells with the name and the
percentage, and the number of its style is that of the status. -/
structure IsStatusCell (span : Span) (row : Row) : Prop where
  before : (cells row).toList <:+ span.before
  text_eq : span.text = (Text.padStart 15 row.status.label).toList
  good : row.status = .good → span.digits = ['3', '2']
  needsWork : row.status = .needsWork → span.digits = ['3', '3']

/-- The status cells are the spans in the rows. -/
theorem exists_spansOf_rows (before : List Char) (rows : List Row) (later : List Piece) :
    ∃ statusCells behind, List.Forall₂ IsStatusCell statusCells rows ∧
      Style.spansOf before (endLines (rows.map rowPieces) ++ later) =
        (Style.spansOf behind later).map (statusCells ++ ·) id := by
  induction rows generalizing before with
  | nil => exact ⟨[], before, .nil, rfl⟩
  | cons row rest ih =>
      -- only the line feed of a row is between its status cell and the next row
      obtain ⟨statusCells, behind, hcells, hspans⟩ := ih ['\n']
      refine ⟨⟨before ++ (cells row).toList, (statusStyle row.status).numbers.toList,
        (Text.padStart 15 row.status.label).toList⟩ :: statusCells, behind, .cons ?_ hcells, ?_⟩
      · constructor
        · exact List.suffix_append _ _
        · dsimp only
        · intro hstatus
          rw [hstatus]
          rfl
        · intro hstatus
          rw [hstatus]
          rfl
      · show (Style.spansOf ['\n'] (endLines (rest.map rowPieces) ++ later)).map
          (List.cons _) id = _
        rw [hspans]
        simp only [Prod.map, id_eq, List.cons_append]

theorem spansOf_below (before : List Char) (rows : List Row) :
    (Style.spansOf before (endLines (rows.map belowPieces))).1 = [] := by
  induction rows generalizing before with
  | nil => rfl
  | cons row rest ih => exact ih _

theorem exists_spansOf_upper (later : List Piece) :
    ∃ behind, Style.spansOf [] (endLines upperPieces ++ later) =
      (Style.spansOf behind later).map
        (List.cons ⟨[], ['1'], "Coverage by Package:".toList⟩) id := by
  have hbold : Style.bold.numbers.toList = ['1'] := by decide
  simp only [upperPieces, endLines, List.flatMap_cons, List.flatMap_nil, List.cons_append,
    List.nil_append, Style.spansOf, hbold]
  exact ⟨_, rfl⟩

/-- The overall line and two empty ones are right in front of the second title. -/
theorem exists_spansOf_middle (report : Report) (before : List Char) (later : List Piece) :
    ∃ front behind, (overallLine report.overall ++ "\n\n\n").toList <:+ front ∧
      Style.spansOf before (endLines report.middlePieces ++ later) =
        (Style.spansOf behind later).map
          (List.cons ⟨front, ['1'], (belowTitle report.threshold).toList⟩) id := by
  have hbold : Style.bold.numbers.toList = ['1'] := by decide
  let front := before ++ rule.toList ++ "\n".toList ++ (overallLine report.overall).toList ++
    "\n".toList ++ "".toList ++ "\n".toList ++ "".toList ++ "\n".toList
  have hfront : front = before ++ rule.toList ++ "\n".toList ++
      (overallLine report.overall ++ "\n\n\n").toList := by
    simp [front]
  refine ⟨front, "\n".toList ++ rule.toList ++ "\n".toList, ?_, ?_⟩
  · rw [hfront]
    exact List.suffix_append _ _
  · simp only [middlePieces, endLines, List.flatMap_cons, List.flatMap_nil, List.cons_append,
      List.nil_append, Style.spansOf, hbold, front]

/-- The spans of a report are its two titles and the status cells between them. -/
theorem exists_spansOf (report : Report) : ∃ statusCells before behind,
    Style.spansOf [] (endLines report.linePieces) =
        (⟨[], ['1'], "Coverage by Package:".toList⟩ ::
          (statusCells ++ [⟨before, ['1'], (belowTitle report.threshold).toList⟩]), behind) ∧
      List.Forall₂ IsStatusCell statusCells report.rows ∧
      (overallLine report.overall ++ "\n\n\n").toList <:+ before := by
  -- the report is cut behind its heads, behind its rows and behind the second title
  let lower := endLines (report.below.map belowPieces)
  let later := endLines report.middlePieces ++ lower
  obtain ⟨front, hupper⟩ := exists_spansOf_upper (endLines (report.rows.map rowPieces) ++ later)
  obtain ⟨statusCells, rest, hcells, hrows⟩ := exists_spansOf_rows front report.rows later
  obtain ⟨before, behind, hbefore, hmiddle⟩ := exists_spansOf_middle report rest lower
  refine ⟨statusCells, before, (Style.spansOf behind lower).2, ?_, hcells, hbefore⟩
  rw [linePieces, endLines_append, endLines_append, endLines_append, List.append_assoc,
    List.append_assoc, hupper, hrows, hmiddle]
  simp only [Prod.map, id_eq, lower, spansOf_below]

/-! ## What a terminal makes of a report -/

/-- A terminal shows a report with colour as the one without, and it finds two sequences for each
title and each row.  They come in pairs around the first title, then around the status cells of
the rows in order, and at last around the title of the second table, which stands behind the
overall line and two empty ones. -/
structure Coloured (report : Report) : Prop where
  shown_eq : Style.shown (report.render true).toList = (report.render false).toList
  length_sequences : (Style.sequences (report.render true).toList).length =
    2 * (2 + report.rows.length)
  tokens_eq : ∃ (statusCells : List Span) (before behind : List Char),
    Style.tokens (report.render true).toList =
        (⟨[], ['1'], "Coverage by Package:".toList⟩ ::
          (statusCells ++ [⟨before, ['1'], (belowTitle report.threshold).toList⟩])).flatMap
            Span.tokens ++ behind.map .shown ∧
      List.Forall₂ IsStatusCell statusCells report.rows ∧
      (overallLine report.overall ++ "\n\n\n").toList <:+ before

/-- **Colour adds only colour.**  This holds of every report whose names do not have the escape
character in them, even if its rows, its percentages and its counts do not fit together. -/
theorem coloured_of_names (report : Report)
    (hnames : ∀ row ∈ report.rows, Style.escape ∉ row.name.toList) : report.Coloured := by
  have hpieces := isReadable_of_mem_linePieces hnames
  have htext := join_linePieces report true
  constructor
  · rw [← htext, Style.shown_join hpieces, join_linePieces]
  · rw [← htext, Style.length_sequences_join hpieces, countP_linePieces]
  · obtain ⟨statusCells, before, behind, hspans, hcells, hbefore⟩ := exists_spansOf report
    refine ⟨statusCells, before, behind, ?_, hcells, hbefore⟩
    rw [← htext, Style.tokens_join_eq_spans hpieces, hspans]

/-- Brackets and digits in names are shown, and neither a percentage that is not a number nor more
covered statements than there are change the number of sequences, also where the difference of the
two wraps round in the second table. -/
theorem coloured_of_names_two_rows :
    let report : Report := {
      rows := [⟨"[31m\n0m", .nan, .good, ⟨.clamp 0, .clamp 7⟩⟩,
        ⟨"", .infinity true, .needsWork, ⟨.clamp 1, .clamp 2⟩⟩]
      overall := ⟨.clamp 3, .clamp 9⟩
      threshold := 75 }
    (∀ row ∈ report.rows, Style.escape ∉ row.name.toList) ∧ report.Coloured ∧
      (Style.sequences (report.render true).toList).length = 8 ∧
      report.below.map (fun row => row.tally.uncovered) = [18446744073709551615] := by
  intro report
  have hnames : ∀ row ∈ report.rows, Style.escape ∉ row.name.toList := by decide
  have hcoloured := coloured_of_names report hnames
  exact ⟨hnames, hcoloured, hcoloured.length_sequences, by decide +kernel⟩

end PackageCoverage.Report
