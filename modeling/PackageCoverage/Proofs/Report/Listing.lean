import PackageCoverage.Proofs.Report.ReadingBack
import PackageCoverage.Proofs.Text.ByteOrder

/-!
# The list of rows

A report has one row for each package that has a statement, and the rows stand in an order that
leaves no choice.

* **Names.**  The key of a package is the root, a slash and its name, so the rows tell the keys
  (`Row.key_ofEntry`), and keys are in the order of names (`Row.pairwise_names`).
* **Ties.**  Sorting keeps the order of what compares as equal (`filter_mergeSort`).  Rows are
  sorted by their percentages only, and since they come in the order of their names, names decide
  where percentages do not (`Row.pairwise_before`).
* **One list.**  Percentages and names are in a strict order, so there is only one list of the
  same rows that is in this order (`Row.eq_of_pairwise_before`).
-/

namespace PackageCoverage

/-! ## Sorting -/

section Sorting

variable {α : Type} {le : α → α → Bool} {list : List α}

/-- What compares as equal with some element stays in its order. -/
theorem filter_mergeSort (htrans : ∀ a b c, le a b → le b c → le a c)
    (htotal : ∀ a b, le a b || le b a) (list : List α) (element : α) :
    (list.mergeSort le).filter (fun other => le element other && le other element) =
      list.filter fun other => le element other && le other element := by
  let tied (other : α) : Bool := le element other && le other element
  have hpairwise : (list.filter tied).Pairwise fun first second => le first second := by
    refine List.pairwise_of_forall_mem_list ?_
    intro first hfirst second hsecond
    simp only [tied, List.mem_filter, Bool.and_eq_true] at hfirst hsecond
    exact htrans first element second hfirst.2.2 hsecond.2.1
  -- sorting keeps an ascending part of the list in its order
  have hsublist : (list.filter tied).Sublist ((list.mergeSort le).filter tied) := by
    have hsorted := List.sublist_mergeSort htrans htotal hpairwise List.filter_sublist
    simpa using hsorted.filter tied
  have hlength : (list.filter tied).length = ((list.mergeSort le).filter tied).length :=
    ((List.mergeSort_perm list le).filter tied).length_eq.symm
  exact (hsublist.eq_of_length hlength).symm

/-- Sorting puts smaller elements in front, and leaves those that compare as equal in the order in
which they come. -/
theorem pairwise_mergeSort_and {before : α → α → Prop} (htrans : ∀ a b c, le a b → le b c → le a c)
    (htotal : ∀ a b, le a b || le b a) (hlist : list.Pairwise before) :
    (list.mergeSort le).Pairwise fun first second =>
      le first second ∧ (le second first → before first second) := by
  refine List.pairwise_iff_forall_sublist.mpr ?_
  intro first second hpair
  have hle : le first second :=
    List.pairwise_iff_forall_sublist.mp (List.pairwise_mergeSort htrans htotal list) hpair
  refine ⟨hle, fun hge => ?_⟩
  have hrefl : ∀ element, le element element = true := by
    intro element
    simpa using htotal element element
  -- two rows that compare as equal are kept by the filter for the first of them
  have hfilter := hpair.filter fun other => le first other && le other first
  rw [filter_mergeSort htrans htotal] at hfilter
  have hboth : [first, second].filter (fun other => le first other && le other first) =
      [first, second] := by
    simp [hrefl, hle, hge]
  rw [hboth] at hfilter
  exact List.pairwise_iff_forall_sublist.mp hlist (hfilter.trans List.filter_sublist)

end Sorting

/-! ## The order of rows -/

namespace Row

variable {root : PackageRoot} {packages : PackageTable} {threshold : Binary64} {row : Row}

/-- A row comes before those with a higher percentage, and among those with the same percentage
before those with a later name. -/
def Before (first second : Row) : Prop :=
  first.percentage < second.percentage ∨
    first.percentage = second.percentage ∧
      Profile.encode first.name < Profile.encode second.name

theorem not_before_of_before {first second : Row} (hbefore : first.Before second) :
    ¬ second.Before first := by
  rintro (hlt' | ⟨heq', hname'⟩) <;> rcases hbefore with hlt | ⟨heq, hname⟩
  · exact absurd (Int.lt_trans hlt.2.2 hlt'.2.2) (Int.lt_irrefl _)
  · rw [heq] at hlt'
    exact absurd hlt'.2.2 (Int.lt_irrefl _)
  · rw [heq'] at hlt
    exact absurd hlt.2.2 (Int.lt_irrefl _)
  · exact List.lt_asymm hname hname'

/-- Two lists of the same rows in this order are one list. -/
theorem eq_of_pairwise_before {first second : List Row} (hmem : ∀ row, row ∈ first ↔ row ∈ second)
    (hfirst : first.Pairwise Before) (hsecond : second.Pairwise Before) : first = second := by
  have hnodup : ∀ {rows : List Row}, rows.Pairwise Before → rows.Nodup := by
    intro rows hrows
    refine hrows.imp ?_
    rintro row _ hbefore rfl
    exact not_before_of_before hbefore hbefore
  have hperm : first.Perm second :=
    (List.perm_ext_iff_of_nodup (hnodup hfirst) (hnodup hsecond)).mpr hmem
  refine hperm.eq_of_pairwise ?_ hfirst hsecond
  intro row row' _ _ hbefore hbefore'
  exact absurd hbefore' (not_before_of_before hbefore)

/-! ## Names and keys -/

/-- The key of the package that a row is about. -/
def key (root : PackageRoot) (row : Row) : String := root.path ++ "/" ++ row.name

theorem key_ofEntry {path : String} {entry : String × Tally}
    (hkey : root.key? path = some entry.1) : (ofEntry threshold entry).key root = entry.1 := by
  rw [← PackageRoot.stem_append_lastSegment hkey]
  apply String.toList_inj.mp
  simp [key, ofEntry, PackageRoot.stem]

private theorem lt_of_append_lt {front first second : List Char}
    (hlt : front ++ first < front ++ second) : first < second := by
  induction front with
  | nil => exact hlt
  | cons c rest ih => exact ih (by simpa using hlt)

theorem name_lt_of_key_lt {first second : Row} (hlt : first.key root < second.key root) :
    first.name < second.name := by
  rw [String.lt_iff] at hlt ⊢
  simp only [key, String.toList_append] at hlt
  exact lt_of_append_lt hlt

theorem pairwise_names (threshold : Binary64)
    (hkeys : ∀ entry ∈ packages.entries, ∃ path, root.key? path = some entry.1) :
    ((packages.entries.filter fun entry => entry.2.total.value ≠ 0).map
      (ofEntry threshold)).Pairwise fun first second => first.name < second.name := by
  rw [List.pairwise_map]
  refine (packages.sorted.filter _).imp_of_mem ?_
  intro first second hfirst hsecond hlt
  obtain ⟨path₁, hkey₁⟩ := hkeys first (List.mem_of_mem_filter hfirst)
  obtain ⟨path₂, hkey₂⟩ := hkeys second (List.mem_of_mem_filter hsecond)
  have hkeys_lt : (ofEntry threshold first).key root < (ofEntry threshold second).key root := by
    rw [key_ofEntry hkey₁, key_ofEntry hkey₂]
    exact hlt
  exact name_lt_of_key_lt hkeys_lt

theorem pairwise_before (threshold : Binary64)
    (hkeys : ∀ entry ∈ packages.entries, ∃ path, root.key? path = some entry.1) :
    (ofTable packages threshold).Pairwise Before := by
  have hsorted :=
    pairwise_mergeSort_and precedes_trans precedes_total (pairwise_names threshold hkeys)
  refine List.Pairwise.imp_of_mem ?_ hsorted
  intro first second hfirst hsecond hpair
  obtain ⟨hprecedes, hties⟩ := hpair
  -- rows that compare as equal have one percentage, and keep the order of their names
  by_cases hback : second.percentage.precedes first.percentage = true
  · exact .inr ⟨Binary64.eq_of_precedes hprecedes hback,
      Text.lt_iff_encode_lt.mp (hties hback)⟩
  · left
    rw [Binary64.precedes_iff_le (isNaN_percentage_of_mem hsecond)
      (negative_percentage_of_mem hsecond) (isNaN_percentage_of_mem hfirst)
      (negative_percentage_of_mem hfirst), Binary64.not_le_iff_lt
      (isNaN_percentage_of_mem hsecond) (isNaN_percentage_of_mem hfirst)] at hback
    exact hback

/-! ## The rows of a run -/

/-- The rows list the packages of a table, each that has a statement with its key, its tally and
the percentage of this tally, in a strict order by percentage and name. -/
structure Lists (rows : List Row) (root : PackageRoot) (packages : PackageTable) : Prop where
  entries_perm : (rows.map fun row => (row.key root, row.tally)).Perm
    (packages.entries.filter fun entry => entry.2.total.value ≠ 0)
  nodup_keys : (packages.entries.map Prod.fst).Nodup
  percentage_eq : ∀ row ∈ rows, row.percentage = row.tally.percentage
  name_ne : ∀ row ∈ rows, row.name ≠ ""
  slash_not_mem : ∀ row ∈ rows, '/' ∉ row.name.toList
  nodup_names : (rows.map Row.name).Nodup
  ordered : rows.Pairwise Before
  unique : ∀ other : List Row, (∀ row, row ∈ other ↔ row ∈ rows) → other.Pairwise Before →
    other = rows

theorem name_of_mem (hkeys : ∀ entry ∈ packages.entries, ∃ path, root.key? path = some entry.1)
    {row : Row} (hrow : row ∈ ofTable packages threshold) :
    row.name ≠ "" ∧ '/' ∉ row.name.toList := by
  obtain ⟨entry, hentry, -, rfl⟩ := mem_ofTable_iff.mp hrow
  obtain ⟨path, hkey⟩ := hkeys entry hentry
  exact PackageRoot.lastSegment_segment hkey

theorem lists_ofTable (threshold : Binary64)
    (hkeys : ∀ entry ∈ packages.entries, ∃ path, root.key? path = some entry.1) :
    Lists (ofTable packages threshold) root packages where
  entries_perm := by
    have hperm := (ofTable_perm packages threshold).map fun row => (row.key root, row.tally)
    -- the key can be put together again from the root and the name
    have hentries : ((packages.entries.filter fun entry => entry.2.total.value ≠ 0).map
        (ofEntry threshold)).map (fun row => (row.key root, row.tally)) =
          packages.entries.filter fun entry => entry.2.total.value ≠ 0 := by
      rw [List.map_map]
      refine (List.map_congr_left fun entry hentry => ?_).trans (List.map_id _)
      obtain ⟨path, hkey⟩ := hkeys entry (List.mem_of_mem_filter hentry)
      simp only [Function.comp_apply, key_ofEntry hkey]
      rfl
    rwa [hentries] at hperm
  nodup_keys := packages.nodup_keys
  percentage_eq _ hrow := (percentage_eq_of_mem hrow).1
  name_ne _ hrow := (name_of_mem hkeys hrow).1
  slash_not_mem _ hrow := (name_of_mem hkeys hrow).2
  nodup_names := nodup_names root threshold hkeys
  ordered := pairwise_before threshold hkeys
  unique := by
    intro other hmem hother
    exact eq_of_pairwise_before hmem hother (pairwise_before threshold hkeys)

/-- **The list of rows.**  After every run, each package that has a statement has one row, with
its tally and the percentage of this tally.  The name in the row is the segment of the key behind
the root, which is not empty and holds no slash, and no two rows have one name.  The rows are in a
strict order, first by percentage and then by the bytes of their names, and no other list of these
rows is in this order.  If the run was fed with lines only, no name holds a blank or a colon. -/
theorem lists_run (path : String) (operations : List Coverage.Operation) (threshold : Binary64) :
    Lists (ofTable (Coverage.run path operations).packages threshold) (.ofPath path)
        (Coverage.run path operations).packages ∧
      ((∀ operation ∈ operations, operation.IsOfLines) →
        ∀ row ∈ ofTable (Coverage.run path operations).packages threshold,
          ∀ c ∈ row.name.toList, Text.isBlank c = false ∧ c ≠ ':') := by
  constructor
  · apply lists_ofTable
    intro entry hentry
    exact (Coverage.reflects_run path operations).exists_path hentry
  · intro hlines row hrow c hc
    obtain ⟨text, record, key, htext, hkey, hname⟩ := Coverage.exists_line_of_row hlines hrow
    -- a character of the name is one of a path, and this path is part of a line
    rw [← hname] at hc
    have hpath := PackageRoot.mem_path_of_mem_lastSegment hkey hc
    refine ⟨Line.unblank_path htext c hpath, ?_⟩
    rintro rfl
    exact Line.colon_not_mem_path htext hpath

end Row

end PackageCoverage
