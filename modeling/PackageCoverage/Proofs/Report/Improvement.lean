import Mathlib.Data.List.Forall2
import PackageCoverage.Proofs.Package.Uncovered

/-!
# More coverage, no worse report

Take two runs of the tests over the same blocks, where the second executes every block that the
first executes.  `AtMost` relates what the two runs lead to, one definition for each stage: two
records, the tallies of a package, the coverages, the rows and the reports.

* **One step.**  Counting two related records keeps two coverages related
  (`Coverage.AtMost.count`): both records go to the same entry, and a counter that stops at the
  limit stays in order with the other one.
* **A run.**  The coverages after two related lists are therefore related
  (`Coverage.AtMost.countAll`), entry by entry.
* **The report.**  Percentages grow with the covered counts (`percentage_mono`), so nothing in
  the second report is worse than in the first (`Report.atMost_of_records`).
-/

namespace PackageCoverage

/-- One block in two runs: if the first run executes it, so does the second. -/
structure Record.AtMost (first second : Record) : Prop where
  path_eq : first.path = second.path
  statements_eq : first.statements = second.statements
  executed : 0 < first.executions.value → 0 < second.executions.value

/-! ## Tallies -/

/-- As many statements in both tallies, and at least as many covered ones in the second. -/
structure Tally.AtMost (first second : Tally) : Prop where
  total_eq : first.total = second.total
  covered_le : first.covered.value ≤ second.covered.value

namespace Tally

variable {first second first' second' : Tally}

theorem AtMost.refl (tally : Tally) : tally.AtMost tally := ⟨rfl, le_rfl⟩

/-- Sums stay in order, also where they stop at the limit. -/
theorem AtMost.add (hfirst : first.AtMost first') (hsecond : second.AtMost second') :
    (first + second).AtMost (first' + second') := by
  constructor
  · rw [total_add, total_add, hfirst.total_eq, hsecond.total_eq]
  · have hsum : first.covered.value + second.covered.value ≤
        first'.covered.value + second'.covered.value :=
      Nat.add_le_add hfirst.covered_le hsecond.covered_le
    rw [covered_add, covered_add, Count.value_add, Count.value_add]
    omega

theorem AtMost.percentage_le (hle : first.AtMost second) :
    first.percentage ≤ second.percentage := by
  rw [percentage, percentage, hle.total_eq]
  exact percentage_mono second.total hle.covered_le

theorem AtMost.uncovered_le (hle : first.AtMost second)
    (hsecond : second.covered.value ≤ second.total.value) :
    second.uncovered ≤ first.uncovered := by
  have hfirst : first.covered.value ≤ first.total.value := by
    rw [hle.total_eq]
    exact hle.covered_le.trans hsecond
  rw [uncovered_eq_of_le hsecond, uncovered_eq_of_le hfirst, hle.total_eq]
  exact Nat.sub_le_sub_left hle.covered_le _

end Tally

theorem Record.AtMost.ofRecord {first second : Record} (hle : first.AtMost second) :
    (Tally.ofRecord first).AtMost (Tally.ofRecord second) := by
  constructor
  · exact hle.statements_eq
  · by_cases hfirst : 0 < first.executions.value
    · have hsecond := hle.executed hfirst
      simp [Tally.ofRecord, isCovered, hfirst, hsecond, hle.statements_eq]
    · simp [Tally.ofRecord, isCovered, hfirst]

/-! ## Entries -/

namespace PackageTable

/-- Two entries of one package. -/
def EntryAtMost (first second : String × Tally) : Prop :=
  first.1 = second.1 ∧ first.2.AtMost second.2

variable {entries entries' : List (String × Tally)}

/-- What is added to one key goes to the same place in both tables. -/
theorem addEntry_atMost {tally tally' : Tally} (key : String) (htally : tally.AtMost tally')
    (hentries : List.Forall₂ EntryAtMost entries entries') :
    List.Forall₂ EntryAtMost (addEntry key tally entries) (addEntry key tally' entries') := by
  induction hentries with
  | nil => exact .cons ⟨rfl, htally⟩ .nil
  | @cons entry entry' later later' hentry hlater ih =>
      obtain ⟨hkey, hle⟩ := hentry
      simp only [addEntry]
      rw [hkey]
      -- the keys are the same, so the new entry goes to the same place of both
      by_cases hfront : key < entry'.1
      · rw [if_pos hfront, if_pos hfront]
        exact .cons ⟨rfl, htally⟩ (.cons ⟨hkey, hle⟩ hlater)
      · rw [if_neg hfront, if_neg hfront]
        by_cases hback : entry'.1 < key
        · rw [if_pos hback, if_pos hback]
          exact .cons ⟨hkey, hle⟩ ih
        · rw [if_neg hback, if_neg hback]
          exact .cons ⟨rfl, hle.add htally⟩ hlater

theorem exists_entry_of_mem (hentries : List.Forall₂ EntryAtMost entries entries')
    {entry' : String × Tally} (hmem : entry' ∈ entries') :
    ∃ entry ∈ entries, EntryAtMost entry entry' := by
  induction hentries with
  | nil => simp at hmem
  | cons hentry _ ih =>
      rcases List.mem_cons.mp hmem with rfl | hlater
      · exact ⟨_, List.mem_cons_self, hentry⟩
      · obtain ⟨entry, hentry, hle⟩ := ih hlater
        exact ⟨entry, List.mem_cons_of_mem _ hentry, hle⟩

theorem sum_atMost (hentries : List.Forall₂ EntryAtMost entries entries') :
    (entries.map Prod.snd).sum.AtMost (entries'.map Prod.snd).sum := by
  induction hentries with
  | nil => exact Tally.AtMost.refl 0
  | cons hentry _ ih =>
      rw [List.map_cons, List.map_cons, List.sum_cons, List.sum_cons]
      exact hentry.2.add ih

end PackageTable

/-! ## Coverages -/

/-- The same packages with the same totals, and in the second coverage at least as many covered
statements of each. -/
structure Coverage.AtMost (first second : Coverage) : Prop where
  root_eq : first.root = second.root
  entries : List.Forall₂ PackageTable.EntryAtMost first.packages.entries second.packages.entries
  outside_eq : first.outside = second.outside

namespace Coverage

variable {first second : Coverage}

/-- Counting one more record in both coverages keeps them in order. -/
theorem AtMost.count (hle : first.AtMost second) {record record' : Record}
    (hrecord : record.AtMost record') : (first.count record).AtMost (second.count record') := by
  have hkey : second.key? record' = first.key? record := by
    rw [Coverage.key?, Coverage.key?, hle.root_eq, hrecord.path_eq]
  unfold Coverage.count Coverage.add
  rw [hkey]
  cases first.key? record with
  | none => exact ⟨hle.root_eq, hle.entries, congrArg (· + 1) hle.outside_eq⟩
  | some key =>
      have hentries := PackageTable.addEntry_atMost key hrecord.ofRecord hle.entries
      exact ⟨hle.root_eq, hentries, hle.outside_eq⟩

theorem AtMost.countAll {records records' : List Record}
    (hrecords : List.Forall₂ Record.AtMost records records') (hle : first.AtMost second) :
    (first.countAll records).AtMost (second.countAll records') := by
  induction hrecords generalizing first second with
  | nil => exact hle
  | cons hrecord _ ih => exact ih (hle.count hrecord)

theorem atMost_empty (root : PackageRoot) : (empty root).AtMost (empty root) := ⟨rfl, .nil, rfl⟩

end Coverage

/-! ## Rows -/

/-- The row of one package in two reports. -/
structure Row.AtMost (first second : Row) : Prop where
  tally : first.tally.AtMost second.tally
  percentage_le : first.percentage ≤ second.percentage
  uncovered_le : second.tally.uncovered ≤ first.tally.uncovered
  good : first.status = .good → second.status = .good

namespace Row

variable {threshold : Binary64}

theorem atMost_ofEntry {entry entry' : String × Tally} (hle : entry.2.AtMost entry'.2)
    (hcovered : entry'.2.covered.value ≤ entry'.2.total.value) :
    (ofEntry threshold entry).AtMost (ofEntry threshold entry') := by
  refine ⟨hle, hle.percentage_le, hle.uncovered_le hcovered, ?_⟩
  intro hgood
  have hmet : threshold ≤ entry.2.percentage := ofPercentage_eq_good_iff.mp hgood
  exact ofPercentage_eq_good_iff.mpr (Binary64.le_trans hmet hle.percentage_le)

end Row

/-! ## Reports -/

/-- The same packages with the same totals in two reports, and nothing worse in the second.  A
package has one name and one row in each report. -/
structure Report.AtMost (first second : Report) : Prop where
  packages_perm : (first.rows.map fun row => (row.name, row.tally.total)).Perm
    (second.rows.map fun row => (row.name, row.tally.total))
  nodup_names : (first.rows.map Row.name).Nodup
  rows : ∀ row ∈ first.rows, ∀ row' ∈ second.rows, row.name = row'.name → row.AtMost row'
  overall : first.overall.AtMost second.overall
  overall_percentage_le : first.overall.percentage ≤ second.overall.percentage
  below_subset : second.below.map Row.name ⊆ first.below.map Row.name

namespace Report

variable {first second : Coverage} {threshold : Binary64}

/-- Packages with statements come in the same order in both tables. -/
private theorem map_filter_entries_eq {entries entries' : List (String × Tally)}
    (hentries : List.Forall₂ PackageTable.EntryAtMost entries entries') :
    (entries.filter fun entry => entry.2.total.value ≠ 0).map
        (fun entry => (PackageRoot.lastSegment entry.1, entry.2.total)) =
      (entries'.filter fun entry => entry.2.total.value ≠ 0).map
        fun entry => (PackageRoot.lastSegment entry.1, entry.2.total) := by
  induction hentries with
  | nil => rfl
  | @cons entry entry' _ _ hentry _ ih =>
      obtain ⟨hkey, hle⟩ := hentry
      rw [List.filter_cons, List.filter_cons, hle.total_eq]
      -- the totals are the same, so either both entries have a row or none has
      split
      · rw [List.map_cons, List.map_cons, ih, hkey, hle.total_eq]
      · exact ih

private theorem map_ofTable_perm (packages : PackageTable) (threshold : Binary64) :
    ((Row.ofTable packages threshold).map fun row => (row.name, row.tally.total)).Perm
      ((packages.entries.filter fun entry => entry.2.total.value ≠ 0).map
        fun entry => (PackageRoot.lastSegment entry.1, entry.2.total)) := by
  have hsort := (Row.ofTable_perm packages threshold).map fun row => (row.name, row.tally.total)
  rw [List.map_map] at hsort
  exact hsort

/-- Rows with one name are those of one package. -/
private theorem row_atMost (hle : first.AtMost second)
    (hfirst : ∀ entry ∈ first.packages.entries, ∃ path, first.root.key? path = some entry.1)
    (hsecond : ∀ entry ∈ second.packages.entries, entry.2.covered.value ≤ entry.2.total.value)
    {row row' : Row} (hrow : row ∈ Row.ofTable first.packages threshold)
    (hrow' : row' ∈ Row.ofTable second.packages threshold) (hname : row.name = row'.name) :
    row.AtMost row' := by
  obtain ⟨entry, hentry, -, rfl⟩ := Row.mem_ofTable_iff.mp hrow
  obtain ⟨entry', hentry', -, rfl⟩ := Row.mem_ofTable_iff.mp hrow'
  obtain ⟨beside, hbeside, hkey, htally⟩ := PackageTable.exists_entry_of_mem hle.entries hentry'
  -- the entry beside that of the second row has the same name, so it is that of the first row
  have hsame : entry.1 = beside.1 := by
    obtain ⟨path, hpath⟩ := hfirst entry hentry
    obtain ⟨path', hpath'⟩ := hfirst beside hbeside
    have hsegment : PackageRoot.lastSegment entry.1 = PackageRoot.lastSegment beside.1 := by
      rw [hkey]
      exact hname
    rw [← PackageRoot.stem_append_lastSegment hpath, hsegment,
      PackageRoot.stem_append_lastSegment hpath']
  have htallies : entry.2 = beside.2 := by
    have hget := PackageTable.mem_entries_iff.mp hentry
    have hget' := PackageTable.mem_entries_iff.mp hbeside
    rw [hsame, hget'] at hget
    exact (Option.some.inj hget).symm
  exact Row.atMost_ofEntry (htallies ▸ htally) (hsecond entry' hentry')

private theorem below_subset (hle : first.AtMost second) :
    (ofCoverage second threshold).below.map Row.name ⊆
      (ofCoverage first threshold).below.map Row.name := by
  intro name hname
  obtain ⟨row', hmem', rfl⟩ := List.mem_map.mp hname
  obtain ⟨hrow', hbelow'⟩ := List.mem_filter.mp hmem'
  obtain ⟨entry', hentry', htotal, rfl⟩ := Row.mem_ofTable_iff.mp hrow'
  obtain ⟨entry, hentry, hkey, htally⟩ := PackageTable.exists_entry_of_mem hle.entries hentry'
  -- the first report has a row beside the listed one of the second
  have hrow : Row.ofEntry threshold entry ∈ Row.ofTable first.packages threshold := by
    refine Row.mem_ofTable_iff.mpr ⟨entry, hentry, ?_, rfl⟩
    rwa [htally.total_eq]
  have hpercentage : (Row.ofEntry threshold entry).percentage ≤
      (Row.ofEntry threshold entry').percentage := htally.percentage_le
  have hbelow := Row.isBelow_of_le hpercentage hbelow'
  refine List.mem_map.mpr ⟨Row.ofEntry threshold entry, List.mem_filter.mpr ⟨hrow, hbelow⟩, ?_⟩
  exact congrArg PackageRoot.lastSegment hkey

theorem atMost_ofCoverage (hle : first.AtMost second)
    (hfirst : ∀ entry ∈ first.packages.entries, ∃ path, first.root.key? path = some entry.1)
    (hsecond : ∀ entry ∈ second.packages.entries, entry.2.covered.value ≤ entry.2.total.value) :
    (ofCoverage first threshold).AtMost (ofCoverage second threshold) where
  packages_perm := by
    have hperm := map_ofTable_perm first.packages threshold
    rw [map_filter_entries_eq hle.entries] at hperm
    exact hperm.trans (map_ofTable_perm second.packages threshold).symm
  nodup_names := Row.nodup_names first.root threshold hfirst
  rows := fun _ hrow _ hrow' hname => row_atMost hle hfirst hsecond hrow hrow' hname
  overall := PackageTable.sum_atMost hle.entries
  overall_percentage_le := (PackageTable.sum_atMost hle.entries).percentage_le
  below_subset := below_subset hle

/-- **Covering more never makes a report worse.**  Let two lists of records agree on paths and
statements, and let every record that is executed in the first be executed in the second.  Then
the packages and their totals are the same, no package has a lower count or percentage in the
second report or loses its good status, the overall percentage is not lower, and no package is
listed for improvement that was not listed before. -/
theorem atMost_of_records (path : String) (threshold : Binary64) {records records' : List Record}
    (hrecords : List.Forall₂ Record.AtMost records records') :
    ((Coverage.empty (.ofPath path)).countAll records).AtMost
        ((Coverage.empty (.ofPath path)).countAll records') ∧
      (ofCoverage ((Coverage.empty (.ofPath path)).countAll records) threshold).AtMost
        (ofCoverage ((Coverage.empty (.ofPath path)).countAll records') threshold) := by
  have hle := Coverage.AtMost.countAll hrecords (Coverage.atMost_empty (.ofPath path))
  have reflects := (Coverage.reflects_empty (.ofPath path)).countAll records
  have reflects' := (Coverage.reflects_empty (.ofPath path)).countAll records'
  refine ⟨hle, atMost_ofCoverage hle ?_ fun entry => reflects'.covered_le⟩
  intro entry hentry
  rw [reflects.root_eq]
  exact reflects.exists_path hentry

/-- A package whose counters stop at the limit gets its second file covered, and a record outside
of all packages is executed. -/
theorem atMost_of_records_at_limit :
    ((Coverage.empty (.ofPath "pkg")).countAll [⟨"pkg/a/x.go", .clamp Count.limit, .clamp 3⟩,
        ⟨"pkg/a/y.go", .clamp 9, .clamp 0⟩, ⟨"cmd/z.go", .clamp 2, .clamp 0⟩]).AtMost
      ((Coverage.empty (.ofPath "pkg")).countAll [⟨"pkg/a/x.go", .clamp Count.limit, .clamp 1⟩,
        ⟨"pkg/a/y.go", .clamp 9, .clamp 5⟩, ⟨"cmd/z.go", .clamp 2, .clamp 1⟩]) ∧
    (ofCoverage ((Coverage.empty (.ofPath "pkg")).countAll
        [⟨"pkg/a/x.go", .clamp Count.limit, .clamp 3⟩, ⟨"pkg/a/y.go", .clamp 9, .clamp 0⟩,
          ⟨"cmd/z.go", .clamp 2, .clamp 0⟩]) 75).AtMost
      (ofCoverage ((Coverage.empty (.ofPath "pkg")).countAll
        [⟨"pkg/a/x.go", .clamp Count.limit, .clamp 1⟩, ⟨"pkg/a/y.go", .clamp 9, .clamp 5⟩,
          ⟨"cmd/z.go", .clamp 2, .clamp 1⟩]) 75) := by
  refine atMost_of_records "pkg" 75 ?_
  exact .cons ⟨rfl, rfl, fun _ => by decide⟩ (.cons ⟨rfl, rfl, fun _ => by decide⟩
    (.cons ⟨rfl, rfl, fun _ => by decide⟩ .nil))

end Report

end PackageCoverage
