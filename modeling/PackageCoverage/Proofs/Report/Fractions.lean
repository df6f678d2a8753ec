import PackageCoverage.Proofs.Package.Uncovered
import PackageCoverage.Proofs.Report.Listing
import PackageCoverage.Proofs.Tally.Accuracy

/-!
# Rows in the order of fractions

Rows are in the order of their rounded percentages.  As long as no package has more than `2 ^ 25`
statements, this is the order of the exact fractions of covered statements: rounding neither swaps
two packages, nor takes different fractions for equal ones, nor tells equal ones apart
(`Row.before_iff_beforeByFraction`).  So the list of rows is what one would write down by hand
(`Row.pairwise_beforeByFraction_run`).
-/

namespace PackageCoverage.Row

variable {first second : Row}

/-- A row comes before those with a larger fraction of covered statements, and among those with
the same fraction before those with a later name. -/
def BeforeByFraction (first second : Row) : Prop :=
  first.tally.covered.value * second.tally.total.value <
      second.tally.covered.value * first.tally.total.value ∨
    first.tally.covered.value * second.tally.total.value =
        second.tally.covered.value * first.tally.total.value ∧
      Profile.encode first.name < Profile.encode second.name

/-- With few statements, the two orders of rows are one. -/
theorem before_iff_beforeByFraction (hfirst : first.percentage = first.tally.percentage)
    (hsecond : second.percentage = second.tally.percentage) (hfew : first.tally.Few)
    (hfew' : second.tally.Few) : first.Before second ↔ first.BeforeByFraction second := by
  rw [Before, BeforeByFraction, hfirst, hsecond, Tally.percentage_lt_iff hfew hfew',
    Tally.percentage_eq_iff hfew hfew']

variable {path : String} {operations : List Coverage.Operation} {threshold : Binary64} {row : Row}

theorem few_of_mem
    (hfew : ∀ entry ∈ (Coverage.run path operations).packages.entries,
      entry.2.total.value ≤ 2 ^ 25)
    (hrow : row ∈ ofTable (Coverage.run path operations).packages threshold) : row.tally.Few := by
  refine ⟨Coverage.covered_le_of_row hrow, total_pos_of_mem hrow, ?_⟩
  obtain ⟨entry, hentry, -, rfl⟩ := mem_ofTable_iff.mp hrow
  exact hfew entry hentry

/-- **The order of fractions.**  The percentages of two tallies with at most `2 ^ 25` statements
are in the order of their fractions, and equal just if these are.  If no package of a run has more
statements, the rows list the packages that have one in the order of their exact fractions, and
packages with the same fraction in the order of the bytes of their names. -/
theorem pairwise_beforeByFraction_run :
    (∀ first second : Tally, first.Few → second.Few →
      (first.percentage < second.percentage ↔
          first.covered.value * second.total.value < second.covered.value * first.total.value) ∧
        (first.percentage = second.percentage ↔
          first.covered.value * second.total.value = second.covered.value * first.total.value)) ∧
      ∀ path operations threshold,
        (∀ entry ∈ (Coverage.run path operations).packages.entries,
          entry.2.total.value ≤ 2 ^ 25) →
        let rows := ofTable (Coverage.run path operations).packages threshold
        (rows.map fun row => (row.key (.ofPath path), row.tally)).Perm
            ((Coverage.run path operations).packages.entries.filter fun entry =>
              entry.2.total.value ≠ 0) ∧
          rows.Pairwise BeforeByFraction := by
  refine ⟨fun first second hfirst hsecond => ⟨?_, ?_⟩, fun path operations threshold hfew => ?_⟩
  · exact Tally.percentage_lt_iff hfirst hsecond
  · exact Tally.percentage_eq_iff hfirst hsecond
  · have hlists : Lists (ofTable (Coverage.run path operations).packages threshold) (.ofPath path)
        (Coverage.run path operations).packages := by
      apply lists_ofTable
      intro entry hentry
      exact (Coverage.reflects_run path operations).exists_path hentry
    -- the rows are in order already, and with few statements it is this order
    refine ⟨hlists.entries_perm, hlists.ordered.imp_of_mem ?_⟩
    intro first second hfirst hsecond hbefore
    exact (before_iff_beforeByFraction (hlists.percentage_eq first hfirst)
      (hlists.percentage_eq second hsecond) (few_of_mem hfew hfirst)
      (few_of_mem hfew hsecond)).mp hbefore

/-- Two packages have a third of their statements covered and are in the order of their names,
behind one that lacks a single statement more. -/
theorem pairwise_beforeByFraction_run_thirds :
    let coverage := Coverage.run "pkg" [.addLine "pkg/b/x.go:1 2 1", .addLine "pkg/b/x.go:2 4 0",
      .addLine "pkg/a/x.go:1 1 7", .addLine "pkg/a/y.go:1 2 0", .addLine "pkg/c/x.go:1 11184810 1",
      .addLine "pkg/c/x.go:2 22369621 0"]
    (∀ entry ∈ coverage.packages.entries, entry.2.total.value ≤ 2 ^ 25) ∧
      (ofTable coverage.packages 75).Pairwise BeforeByFraction ∧
      (⟨.clamp 6, .clamp 2⟩ : Tally).percentage = (⟨.clamp 3, .clamp 1⟩ : Tally).percentage := by
  intro coverage
  have hentries : coverage.packages.entries = [("pkg/a", ⟨.clamp 3, .clamp 1⟩),
      ("pkg/b", ⟨.clamp 6, .clamp 2⟩), ("pkg/c", ⟨.clamp 33554431, .clamp 11184810⟩)] := by
    decide +kernel
  have hfew : ∀ entry ∈ coverage.packages.entries, entry.2.total.value ≤ 2 ^ 25 := by
    rw [hentries]
    decide
  obtain ⟨htallies, hrows⟩ := pairwise_beforeByFraction_run
  exact ⟨hfew, (hrows "pkg" _ 75 hfew).2,
    (htallies _ _ ⟨by decide, by decide, by decide⟩ ⟨by decide, by decide, by decide⟩).2.mpr
      (by decide)⟩

end PackageCoverage.Row
