import PackageCoverage.Proofs.Binary64.Decimal
import PackageCoverage.Proofs.Text.Columns
import PackageCoverage.Report

/-!
# Characters of a report

A report has control characters in the ends of its lines, in the sequences of its colours, and in
the names of packages, but nowhere else.  So a control character that no name has, be it the line
feed or the one that starts a sequence, is in no line without colour
(`Report.control_not_mem_lines`).
-/

namespace PackageCoverage

namespace Text

/-- Whether a character is one of those in front of the space. -/
def isControl (c : Char) : Bool := decide (c < ' ')

variable {c : Char}

theorem control_not_mem (hc : isControl c = true) {text : List Char}
    (htext : text.any isControl = false) : c ∉ text := by
  intro hmem
  exact List.any_eq_false.mp htext c hmem hc

theorem ne_space_of_isControl (hc : isControl c = true) : c ≠ ' ' := by
  rintro rfl
  exact absurd hc (by decide)

end Text

theorem Binary64.isControl_of_isNumeralChar {c : Char} (hc : isNumeralChar c = true) :
    Text.isControl c = false := by
  have hwords : "NaN-inf.".toList.any Text.isControl = false := by decide
  rcases Bool.or_eq_true_iff.mp hc with hdigit | hword
  · have hzero : '0' ≤ c := by
      simp only [Char.isDigit, Bool.and_eq_true, decide_eq_true_eq] at hdigit
      exact hdigit.1
    rw [Text.isControl, decide_eq_false_iff_not, Char.not_lt]
    exact Char.le_trans (by decide) hzero
  · rw [← Bool.not_eq_true]
    exact List.any_eq_false.mp hwords c (List.contains_iff_mem.mp hword)

theorem Binary64.IsNumeral.control_not_mem {c : Char} {text : List Char}
    (hnumeral : IsNumeral text) (hc : Text.isControl c = true) : c ∉ text := by
  intro hmem
  rw [isControl_of_isNumeralChar (List.all_eq_true.mp hnumeral.all c hmem)] at hc
  cases hc

namespace Report

variable {report : Report} {row : Row} {c : Char}

theorem control_not_mem_rule (hc : Text.isControl c = true) : c ∉ rule.toList :=
  Text.control_not_mem hc (by decide)

theorem control_not_mem_columnHeads (hc : Text.isControl c = true) : c ∉ columnHeads.toList :=
  Text.control_not_mem hc (by decide)

theorem control_not_mem_percentCell (hc : Text.isControl c = true) (width : Nat)
    (percentage : Binary64) : c ∉ (percentCell width percentage).toList := by
  have hnumber := (Binary64.isNumeral_toOneDecimal percentage).control_not_mem hc
  have hsign : c ∉ "%".toList := Text.control_not_mem hc (by decide)
  rw [percentCell, String.toList_append, List.mem_append,
    Text.mem_padStart_iff (Text.ne_space_of_isControl hc), not_or]
  exact ⟨hnumber, hsign⟩

theorem control_not_mem_rowLine (hc : Text.isControl c = true) (hname : c ∉ row.name.toList) :
    c ∉ (rowLine false row).toList := by
  have hspace := Text.ne_space_of_isControl hc
  have hblank : c ∉ " ".toList := Text.control_not_mem hc (by decide)
  have hlabel : c ∉ row.status.label.toList := by
    apply Text.control_not_mem hc
    cases row.status <;> decide
  have hstatus : statusCell false row.status = Text.padStart 15 row.status.label := rfl
  simp only [rowLine, hstatus, String.toList_append, List.mem_append, Text.mem_padEnd_iff hspace,
    Text.mem_padStart_iff hspace, hname, hblank, hlabel, control_not_mem_percentCell hc, or_self,
    not_false_eq_true]

theorem control_not_mem_belowLine (hc : Text.isControl c = true) (hname : c ∉ row.name.toList) :
    c ∉ (belowLine row).toList := by
  have hspace := Text.ne_space_of_isControl hc
  have hblank : c ∉ " ".toList := Text.control_not_mem hc (by decide)
  have hneed : c ∉ "  (need ".toList := Text.control_not_mem hc (by decide)
  have hmore : c ∉ " more statements)".toList := Text.control_not_mem hc (by decide)
  have hcount : c ∉ (toString row.tally.uncovered).toList :=
    (Binary64.isNumeral_toString _).control_not_mem hc
  simp only [belowLine, String.toList_append, List.mem_append, Text.mem_padEnd_iff hspace,
    Text.mem_padStart_iff hspace, hname, hblank, hneed, hmore, hcount,
    control_not_mem_percentCell hc, or_self, not_false_eq_true]

theorem control_not_mem_overallLine (hc : Text.isControl c = true) (overall : Tally) :
    c ∉ (overallLine overall).toList := by
  have hlabel : c ∉ (Text.padEnd 50 "Overall" ++ " ").toList := Text.control_not_mem hc (by decide)
  rw [overallLine, String.toList_append, List.mem_append, not_or]
  exact ⟨hlabel, control_not_mem_percentCell hc 9 overall.percentage⟩

theorem control_not_mem_belowTitle (hc : Text.isControl c = true) (threshold : Binary64) :
    c ∉ (belowTitle threshold).toList := by
  have hfront : c ∉ "Packages needing improvement (< ".toList :=
    Text.control_not_mem hc (by decide)
  have hnumber := (Binary64.isNumeral_toShortest threshold).control_not_mem hc
  have hback : c ∉ "% coverage):".toList := Text.control_not_mem hc (by decide)
  unfold belowTitle
  rw [String.toList_append, String.toList_append, List.mem_append, List.mem_append, not_or,
    not_or]
  exact ⟨⟨hfront, hnumber⟩, hback⟩

/-- A control character that no name has is in no line. -/
theorem control_not_mem_lines (hc : Text.isControl c = true)
    (hnames : ∀ row ∈ report.rows, c ∉ row.name.toList) :
    ∀ line ∈ report.lines false, c ∉ line.toList := by
  have htitle : c ∉ "Coverage by Package:".toList := Text.control_not_mem hc (by decide)
  have hrule := control_not_mem_rule hc
  have hempty : c ∉ "".toList := Text.control_not_mem hc (by decide)
  have hrows : ∀ line ∈ report.rows.map (rowLine false), c ∉ line.toList := by
    intro line hline
    obtain ⟨row, hrow, rfl⟩ := List.mem_map.mp hline
    exact control_not_mem_rowLine hc (hnames row hrow)
  have hbelow : ∀ line ∈ report.below.map belowLine, c ∉ line.toList := by
    intro line hline
    obtain ⟨row, hrow, rfl⟩ := List.mem_map.mp hline
    exact control_not_mem_belowLine hc (hnames row (List.mem_filter.mp hrow).1)
  intro line hline
  simp only [lines, List.mem_append, List.mem_cons, List.not_mem_nil, or_false] at hline
  -- the lines from the first to the last
  rcases hline with ((hfront | hrow) | hmiddle) | hback
  · rcases hfront with rfl | rfl | rfl | rfl
    · exact htitle
    · exact hrule
    · exact control_not_mem_columnHeads hc
    · exact hrule
  · exact hrows line hrow
  · rcases hmiddle with rfl | rfl | rfl | rfl | rfl | rfl
    · exact hrule
    · exact control_not_mem_overallLine hc report.overall
    · exact hempty
    · exact hempty
    · exact control_not_mem_belowTitle hc report.threshold
    · exact hrule
  · exact hbelow line hback

end Report

end PackageCoverage
