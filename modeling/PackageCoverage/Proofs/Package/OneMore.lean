import PackageCoverage.Proofs.Package.Uncovered
import PackageCoverage.Proofs.Tally.Mediant

/-!
# One more record

A record in a package is one block more in two tallies, that of the package and that of all
packages together, and in no other one.

* **Entries.**  The entry of the package gains the block, and is made if there is none
  (`Coverage.tallyOf_add`).  The overall tally gains it as well (`Coverage.overall_add`).
* **Percentages.**  Both tallies move in the direction in which a block moves a tally
  (`Tally.percentage_add_le`, `Tally.percentage_le_add`).  The tally of the package is a part of
  the overall one, so it is exact if the overall one is (`PackageTable.total_le_overall`).
-/

namespace PackageCoverage

namespace PackageTable

/-- No package has more statements than all packages together. -/
theorem total_le_overall (table : PackageTable) (key : String) :
    ((table.get? key).getD 0).total.value ≤ table.overall.total.value := by
  cases hget : table.get? key with
  | none => exact Nat.zero_le _
  | some tally => exact Tally.total_le_sum (List.mem_map_of_mem (mem_entries_iff.mpr hget))

end PackageTable

namespace Coverage

variable {coverage : Coverage} {root : PackageRoot} {handed counted : List Record}
  {record : Record} {key : String}

/-- The tally of a package, which is empty as long as the package has no entry. -/
def tallyOf (coverage : Coverage) (key : String) : Tally := (coverage.packages.get? key).getD 0

/-! ## Entries -/

section Add

variable (hkey : coverage.key? record = some key)

include hkey

theorem get?_add (other : String) :
    (coverage.add record).packages.get? other =
      if other = key then some ((coverage.tallyOf key).add record)
      else coverage.packages.get? other := by
  rw [add, hkey]
  exact PackageTable.get?_add coverage.packages key other (.ofRecord record)

theorem tallyOf_add : (coverage.add record).tallyOf key = (coverage.tallyOf key).add record := by
  rw [tallyOf, get?_add hkey, if_pos rfl]
  rfl

theorem overall_add : (coverage.add record).overall = coverage.overall.add record := by
  rw [add, hkey]
  exact PackageTable.overall_add coverage.packages key (.ofRecord record)

end Add

theorem Reflects.covered_le_tallyOf (reflects : coverage.Reflects root handed counted)
    (key : String) :
    (coverage.tallyOf key).covered.value ≤ (coverage.tallyOf key).total.value := by
  rw [tallyOf, reflects.get?_eq, PackageRoot.getD_tally?]
  exact (Tally.truthful_ofRecords _).covered_le

/-! ## Percentages -/

/-- **One more record moves percentages the right way.**  Adding a record of a package to a
coverage leaves the entries of all other packages as they were.  If the record was never executed,
neither the percentage of its package nor the overall one rises, also where a counter stops at the
limit.  If it was executed, and all packages together then have at most `2 ^ 53` statements, neither
of the two falls.  A package without an entry counts with a percentage of zero. -/
theorem percentages_add (path : String) (operations : List Operation) (record : Record)
    (hkey : (PackageRoot.ofPath path).key? record.path = some key) :
    let before := run path operations
    let after := before.add record
    (∀ other, other ≠ key → after.packages.get? other = before.packages.get? other) ∧
      (record.executions.value = 0 →
        (after.tallyOf key).percentage ≤ (before.tallyOf key).percentage ∧
          after.overall.percentage ≤ before.overall.percentage) ∧
      (0 < record.executions.value → after.overall.total.value ≤ 2 ^ 53 →
        (before.tallyOf key).percentage ≤ (after.tallyOf key).percentage ∧
          before.overall.percentage ≤ after.overall.percentage) := by
  intro before after
  have reflects : before.Reflects _ _ _ := reflects_run path operations
  have hinside : before.key? record = some key := by
    rwa [Coverage.key?, reflects.root_eq]
  have hpackage : after.tallyOf key = (before.tallyOf key).add record := tallyOf_add hinside
  have hall : after.overall = before.overall.add record := overall_add hinside
  have hpackageLe := reflects.covered_le_tallyOf key
  have hallLe := covered_le_overall path operations
  refine ⟨?_, ?_, ?_⟩
  · intro other hother
    exact (get?_add hinside other).trans (if_neg hother)
  · intro hexecutions
    rw [hpackage, hall]
    exact ⟨Tally.percentage_add_le hpackageLe hexecutions,
      Tally.percentage_add_le hallLe hexecutions⟩
  · intro hexecutions hlimit
    -- a package has no more statements than all of them, so its counts are exact too
    have hpart : (after.tallyOf key).total.value ≤ 2 ^ 53 :=
      (after.packages.total_le_overall key).trans hlimit
    rw [hpackage] at hpart ⊢
    rw [hall] at hlimit ⊢
    exact ⟨Tally.percentage_le_add hpackageLe hexecutions hpart,
      Tally.percentage_le_add hallLe hexecutions hlimit⟩

/-- An executed record makes a new package and brings all packages to the largest exact number of
statements, and one that was never executed comes to a package whose counters are at the limit. -/
theorem percentages_add_at_limit :
    (let record : Record := ⟨"pkg/b/y.go", .clamp (2 ^ 53 - 7), .clamp 2⟩
      let before := run "pkg/" [.addLine "pkg/a/x.go:1.1,2.2 7 0"]
      let after := before.add record
      after.overall.total.value = 2 ^ 53 ∧ before.packages.get? "pkg/b" = none ∧
        after.packages.get? "pkg/a" = before.packages.get? "pkg/a" ∧
        (before.tallyOf "pkg/b").percentage ≤ (after.tallyOf "pkg/b").percentage ∧
        before.overall.percentage ≤ after.overall.percentage) ∧
      let record : Record := ⟨"pkg/a/z.go", .clamp 5, .clamp 0⟩
      let before := run "pkg" [.addLine "pkg/a/x.go:1.1,2.2 18446744073709551615 1"]
      let after := before.add record
      after.overall.total.value = Count.limit ∧
        (after.tallyOf "pkg/a").percentage ≤ (before.tallyOf "pkg/a").percentage ∧
        after.overall.percentage ≤ before.overall.percentage := by
  constructor
  · intro record before after
    have hkey : (PackageRoot.ofPath "pkg/").key? record.path = some "pkg/b" := by decide +kernel
    have htotal : after.overall.total.value = 2 ^ 53 := by decide +kernel
    obtain ⟨hothers, -, hexecuted⟩ :=
      percentages_add "pkg/" [.addLine "pkg/a/x.go:1.1,2.2 7 0"] record hkey
    exact ⟨htotal, by decide +kernel, hothers "pkg/a" (by decide), hexecuted (by decide) htotal.le⟩
  · intro record before after
    have hkey : (PackageRoot.ofPath "pkg").key? record.path = some "pkg/a" := by decide +kernel
    obtain ⟨-, hnever, -⟩ :=
      percentages_add "pkg" [.addLine "pkg/a/x.go:1.1,2.2 18446744073709551615 1"] record hkey
    exact ⟨by decide +kernel, hnever (by decide)⟩

end Coverage

end PackageCoverage
