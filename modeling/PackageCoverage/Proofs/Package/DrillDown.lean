import PackageCoverage.Proofs.Package.Keys
import PackageCoverage.Proofs.Package.OneMore
import PackageCoverage.Proofs.Report.Printed

/-!
# One level down

The directory of a package can be taken as a root of its own, and then the entries of that
directory are the packages.  Together they are the package that they were taken from, but for the
files that are in the directory and in no entry of it (`PackageRoot.IsBare`).

* **Paths.**  A path in a package goes on behind the directory with nothing, a slash alone, a
  second slash, or a segment.  In the last case, and in no other one, it is in an entry of the
  directory (`PackageRoot.key?_eq_some_iff_below`).
* **Tallies.**  The records of a package are therefore those inside the new root and the bare ones
  (`Coverage.ofRecords_recordsIn_eq`), and each of the three tallies is cut off once.
* **Rows.**  The row with the name of a package has the tally of the package
  (`Row.tally_eq_of_mem`), so it shows what the overall line shows one level down if no file is
  bare.
-/

namespace PackageCoverage

namespace PackageRoot

variable {path segment file : String} {root : PackageRoot}

/-! ## Paths -/

/-- A file that is in a directory and in no entry of it: its path is that of the directory, with
nothing behind it, or a slash, or two slashes and anything. -/
def IsBare (directory file : String) : Prop :=
  file = directory ∨ file = directory ++ "/" ∨ (directory ++ "//").toList <+: file.toList

instance (directory file : String) : Decidable (IsBare directory file) :=
  inferInstanceAs (Decidable (_ ∨ _ ∨ _))

theorem path_ofPath (hpath : path.toList.getLast? ≠ some '/') : (ofPath path).path = path := by
  obtain ⟨n, hslashes⟩ := exists_slashes path
  cases n with
  | zero =>
      rw [List.replicate_zero, List.append_nil, String.toList_inj] at hslashes
      exact hslashes.symm
  | succ n =>
      rw [List.replicate_succ', ← List.append_assoc] at hslashes
      rw [hslashes, List.getLast?_concat] at hpath
      exact absurd rfl hpath

/-- Some key is found as soon as a segment starts behind the root. -/
theorem isSome_key?_iff :
    (root.key? file).isSome ↔
      ∃ c rest, c ≠ '/' ∧ file.toList = root.path.toList ++ '/' :: c :: rest := by
  rw [Option.isSome_iff_exists]
  constructor
  · rintro ⟨key, hkey⟩
    obtain ⟨segment, rest, hgoesOn, -⟩ := key?_eq_some_iff_goesOn.mp hkey
    obtain ⟨c, later, rfl⟩ := List.exists_cons_of_ne_nil hgoesOn.ne_nil
    refine ⟨c, later ++ rest, ?_, ?_⟩
    · rintro rfl
      exact hgoesOn.slash_not_mem List.mem_cons_self
    · rw [hgoesOn.toList_eq, List.append_assoc]
      rfl
  · rintro ⟨c, rest, hc, hfile⟩
    -- the segment is what comes before the next slash
    obtain ⟨hslash, behind, hbehind, hrest⟩ :=
      takeWhile_eq_iff.mp (rfl : (c :: rest).takeWhile (· ≠ '/') = _)
    have hne : (c :: rest).takeWhile (· ≠ '/') ≠ [] := by simp [hc]
    refine ⟨_, key?_eq_some_iff_goesOn.mpr ⟨_, behind, ⟨?_, hne, hslash, hbehind⟩, rfl⟩⟩
    rw [hfile, List.append_assoc, List.cons_append, ← hrest]

section Below

variable (hpath : path.toList.getLast? ≠ some '/') (hne : segment ≠ "")
  (hslash : '/' ∉ segment.toList)

include hne hslash

theorem path_ofPath_below : (ofPath (path ++ "/" ++ segment)).path = path ++ "/" ++ segment := by
  refine path_ofPath fun hlast => hslash ?_
  have hsegment : segment.toList ≠ [] := fun hnil => hne (String.toList_eq_nil_iff.mp hnil)
  rw [String.toList_append, List.getLast?_append_of_ne_nil _ hsegment] at hlast
  exact List.mem_of_getLast? hlast

theorem isSome_key?_eq_false_of_isBare (hbare : IsBare (path ++ "/" ++ segment) file) :
    ((ofPath (path ++ "/" ++ segment)).key? file).isSome = false := by
  rw [Bool.eq_false_iff, Ne, isSome_key?_iff, path_ofPath_below hne hslash]
  generalize path ++ "/" ++ segment = directory at hbare
  rintro ⟨c, rest, hc, hfile⟩
  rcases hbare with rfl | rfl | ⟨later, hlater⟩
  · simp at hfile
  · simp at hfile
  · rw [hfile, String.toList_append, List.append_assoc, List.append_cancel_left_eq] at hlater
    injection hlater with _ hbehind
    injection hbehind with hslash' _
    exact hc hslash'.symm

include hpath

/-- A file is in a package if its path goes on behind the key with a slash, or not at all. -/
theorem key?_eq_some_iff_behind :
    (ofPath path).key? file = some (path ++ "/" ++ segment) ↔
      ∃ rest, (rest = [] ∨ rest.head? = some '/') ∧
        file.toList = (path ++ "/" ++ segment).toList ++ rest := by
  have hkeyList : (path ++ "/" ++ segment).toList = path.toList ++ '/' :: segment.toList := by
    simp
  have hsegment : segment.toList ≠ [] := fun hnil => hne (String.toList_eq_nil_iff.mp hnil)
  rw [key?_eq_some_iff_goesOn, path_ofPath hpath]
  constructor
  · rintro ⟨other, rest, hgoesOn, hkey⟩
    have hfile := hgoesOn.toList_eq
    rw [path_ofPath hpath] at hfile
    refine ⟨rest, hgoesOn.rest_eq, ?_⟩
    rw [hfile, hkey, String.toList_ofList]
  · rintro ⟨rest, hrest, hfile⟩
    refine ⟨segment.toList, rest, ⟨?_, hsegment, hslash, hrest⟩, ?_⟩
    · rw [path_ofPath hpath, hfile, hkeyList]
    · rw [← hkeyList, String.ofList_toList]

/-- A file in a package is in an entry of its directory, or it is bare. -/
theorem key?_eq_some_iff_below :
    (ofPath path).key? file = some (path ++ "/" ++ segment) ↔
      ((ofPath (path ++ "/" ++ segment)).key? file).isSome ∨
        IsBare (path ++ "/" ++ segment) file := by
  rw [key?_eq_some_iff_behind hpath hne hslash, isSome_key?_iff, path_ofPath_below hne hslash]
  generalize path ++ "/" ++ segment = directory
  constructor
  · rintro ⟨rest, hrest, hfile⟩
    rcases hrest with rfl | hhead
    · rw [List.append_nil, String.toList_inj] at hfile
      exact .inr (.inl hfile)
    · obtain ⟨later, rfl⟩ := List.head?_eq_some_iff.mp hhead
      -- what is behind the slash decides
      cases later with
      | nil =>
          refine .inr (.inr (.inl (String.toList_inj.mp ?_)))
          rw [hfile, String.toList_append]
          rfl
      | cons c later =>
          by_cases hc : c = '/'
          · refine .inr (.inr (.inr ⟨later, ?_⟩))
            rw [hfile, hc, String.toList_append, List.append_assoc]
            rfl
          · exact .inl ⟨c, later, hc, hfile⟩
  · rintro (⟨c, rest, -, hfile⟩ | rfl | rfl | ⟨later, hfile⟩)
    · exact ⟨'/' :: c :: rest, .inr rfl, hfile⟩
    · exact ⟨[], .inl rfl, (List.append_nil _).symm⟩
    · exact ⟨['/'], .inr rfl, String.toList_append⟩
    · refine ⟨'/' :: '/' :: later, .inr rfl, ?_⟩
      rw [← hfile, String.toList_append, List.append_assoc]
      rfl

end Below

end PackageRoot

/-! ## Tallies -/

/-- Records of two kinds, none of which is of both, are tallied kind by kind. -/
theorem Tally.ofRecords_filter_eq_add {whole first second : Record → Bool}
    (hwhole : ∀ record, whole record = (first record || second record))
    (hdisjoint : ∀ record, second record = true → first record = false) (records : List Record) :
    ofRecords (records.filter whole) =
      ofRecords (records.filter first) + ofRecords (records.filter second) := by
  induction records with
  | nil => rfl
  | cons record later ih =>
      -- a record of the second kind is not of the first, so none is tallied twice
      cases hsecond : second record with
      | true =>
          have hfirst := hdisjoint record hsecond
          simp [hwhole, hfirst, hsecond, ih, add_left_comm]
      | false => cases hfirst : first record <;> simp [hwhole, hfirst, hsecond, ih, add_assoc]

namespace Coverage

open PackageRoot

section Below

variable {path segment : String} (hpath : path.toList.getLast? ≠ some '/') (hne : segment ≠ "")
  (hslash : '/' ∉ segment.toList)

include hpath hne hslash

theorem ofRecords_recordsIn_eq (records : List Record) :
    Tally.ofRecords ((ofPath path).recordsIn (path ++ "/" ++ segment) records) =
      .ofRecords (inside (ofPath (path ++ "/" ++ segment)) records) +
        .ofRecords (records.filter fun record => IsBare (path ++ "/" ++ segment) record.path) := by
  refine Tally.ofRecords_filter_eq_add ?_ ?_ records
  · intro record
    have hbelow : (ofPath path).key? record.path = some (path ++ "/" ++ segment) ↔ _ :=
      key?_eq_some_iff_below hpath hne hslash
    rw [Bool.eq_iff_iff]
    simpa using hbelow
  · intro record hbare
    exact isSome_key?_eq_false_of_isBare hne hslash (of_decide_eq_true hbare)

/-- A package has the overall tally of its directory and the tally of the bare files in it. -/
theorem tallyOf_run (operations : List Operation) :
    (run path operations).tallyOf (path ++ "/" ++ segment) =
      (run (path ++ "/" ++ segment) operations).overall +
        .ofRecords ((operations.flatMap Operation.handed).filter fun record =>
          IsBare (path ++ "/" ++ segment) record.path) := by
  rw [tallyOf, (reflects_run path operations).get?_eq, getD_tally?,
    ofRecords_recordsIn_eq hpath hne hslash, (reflects_run _ operations).overall_eq]

end Below

end Coverage

/-! ## Rows -/

theorem Row.tally_eq_of_mem {path : String} {operations : List Coverage.Operation}
    {threshold : Binary64} {row : Row}
    (hrow : row ∈ ofTable (Coverage.run path operations).packages threshold) :
    row.tally = (Coverage.run path operations).tallyOf
      (.ofList ((PackageRoot.ofPath path).stem ++ row.name.toList)) := by
  obtain ⟨entry, hentry, -, rfl⟩ := mem_ofTable_iff.mp hrow
  obtain ⟨file, hfile⟩ := (Coverage.reflects_run path operations).exists_path hentry
  have hkey : String.ofList ((PackageRoot.ofPath path).stem ++
      (ofEntry threshold entry).name.toList) = entry.1 :=
    PackageRoot.stem_append_lastSegment hfile
  rw [hkey, Coverage.tallyOf, PackageTable.mem_entries_iff.mp hentry]
  rfl

/-- There is a row with the name of a package just when the package has a statement. -/
theorem Row.exists_name_iff {path segment : String} {operations : List Coverage.Operation}
    {threshold : Binary64} (hslash : '/' ∉ segment.toList) :
    (∃ row ∈ ofTable (Coverage.run path operations).packages threshold, row.name = segment) ↔
      ((Coverage.run path operations).tallyOf
        (.ofList ((PackageRoot.ofPath path).stem ++ segment.toList))).total.value ≠ 0 := by
  constructor
  · rintro ⟨row, hrow, rfl⟩
    rw [← tally_eq_of_mem hrow]
    exact Nat.ne_of_gt (total_pos_of_mem hrow)
  · intro htotal
    -- the key is opened again only for its last segment
    generalize hkey : String.ofList ((PackageRoot.ofPath path).stem ++ segment.toList) = key
      at htotal
    unfold Coverage.tallyOf at htotal
    cases hget : (Coverage.run path operations).packages.get? key with
    | none =>
        rw [hget] at htotal
        exact absurd rfl htotal
    | some tally =>
        rw [hget] at htotal
        have hentry := PackageTable.mem_entries_iff.mpr hget
        refine ⟨ofEntry threshold (key, tally), mem_ofTable_iff.mpr ⟨_, hentry, htotal, rfl⟩, ?_⟩
        show PackageRoot.lastSegment key = segment
        rw [← hkey, PackageRoot.lastSegment_stem_append hslash, String.ofList_toList]

namespace Coverage

open PackageRoot

/-- **A package is what is below its directory.**  Whatever is handed over, the entry of a package
is the overall tally that comes out when the directory of the package is the root, merged with the
tally of the bare files in it, also where counters stop at the limit.  If every file of the package
has a segment below the directory, the row of the package and the overall line one level down show
the same counts and the same percentage; there is such a row just when there are statements. -/
theorem tallyOf_eq_overall_below (path segment : String) (operations : List Operation)
    (hpath : path.toList.getLast? ≠ some '/') (hne : segment ≠ "")
    (hslash : '/' ∉ segment.toList) :
    let key := path ++ "/" ++ segment
    let handed := operations.flatMap Operation.handed
    let above := run path operations
    let below := run key operations
    above.tallyOf key = below.overall +
        .ofRecords (handed.filter fun record => IsBare key record.path) ∧
      ((∀ record ∈ handed, (ofPath path).key? record.path = some key →
          ∃ entry rest, (ofPath key).GoesOn record.path entry rest) →
        above.tallyOf key = below.overall ∧ ∀ threshold,
          ((∃ row ∈ (Report.ofCoverage above threshold).rows, row.name = segment) ↔
            below.overall.total.value ≠ 0) ∧
          ∀ row ∈ (Report.ofCoverage above threshold).rows, row.name = segment →
            row.tally = (Report.ofCoverage below threshold).overall ∧
            row.percentage = (Report.ofCoverage below threshold).overall.percentage ∧
            ∀ colour, Report.percentText (Report.rowLine colour row) =
              Report.percentText
                (Report.overallLine (Report.ofCoverage below threshold).overall)) := by
  intro key handed above below
  have hentry : above.tallyOf key = _ := tallyOf_run hpath hne hslash operations
  refine ⟨hentry, fun hproper => ?_⟩
  -- a bare file would be one that no entry of the directory holds
  have hbare : handed.filter (fun record => IsBare key record.path) = [] := by
    refine List.filter_eq_nil_iff.mpr fun record hrecord hbare => ?_
    rw [decide_eq_true_eq] at hbare
    have hkey := (key?_eq_some_iff_below hpath hne hslash).mpr (.inr hbare)
    obtain ⟨entry, rest, hgoesOn⟩ := hproper record hrecord hkey
    have hnone := isSome_key?_eq_false_of_isBare hne hslash hbare
    rw [key?_eq_some_iff_goesOn.mpr ⟨entry, rest, hgoesOn, rfl⟩] at hnone
    cases hnone
  rw [hbare, Tally.ofRecords_nil, add_zero] at hentry
  have hkey : String.ofList ((ofPath path).stem ++ segment.toList) = key := by
    rw [stem, path_ofPath hpath]
    exact String.toList_inj.mp (by simp [key])
  refine ⟨hentry, fun threshold => ⟨?_, ?_⟩⟩
  · rw [← hentry, ← hkey]
    exact Row.exists_name_iff hslash
  · intro row hrow hname
    have htally : row.tally = below.overall := by
      rw [Row.tally_eq_of_mem hrow, hname, hkey, hentry]
    have hpercentage : row.percentage = below.overall.percentage := by
      rw [(Row.percentage_eq_of_mem hrow).1, htally]
    refine ⟨htally, hpercentage, fun colour => ?_⟩
    rw [Report.percentText_rowLine, Report.percentText_overallLine, hpercentage]
    rfl

/-- A package at the limit with two bare files and a sibling whose name goes on, and the same
package without them, whose row is the overall line one level down. -/
theorem tallyOf_eq_overall_below_at_limit :
    (let operations : List Operation := [
        .countAll [⟨"pkg/a/b/x.go", .clamp Count.limit, .clamp 1⟩, ⟨"pkg/a/", .clamp 5, .clamp 2⟩,
          ⟨"pkg/a//y.go", .clamp 7, .clamp 0⟩, ⟨"pkg/ab/z.go", .clamp 3, .clamp 1⟩]]
      let below := run "pkg/a" operations
      (run "pkg" operations).tallyOf "pkg/a" = below.overall + ⟨.clamp 12, .clamp 5⟩) ∧
      let operations : List Operation := [.add ⟨"pkg/a/b/x.go", .clamp Count.limit, .clamp 1⟩,
        .countAll [⟨"pkg/a/c.go", .clamp 9, .clamp 0⟩, ⟨"pkg/ab/d.go", .clamp 4, .clamp 1⟩]]
      let below := run "pkg/a" operations
      ∃ row ∈ (Report.ofCoverage (run "pkg" operations) 75).rows, row.name = "a" ∧
        row.tally = below.overall ∧ row.percentage = below.overall.percentage := by
  have hkey : "pkg" ++ "/" ++ "a" = "pkg/a" := by decide
  constructor
  · intro operations below
    have hentry := (tallyOf_eq_overall_below "pkg" "a" operations (by decide) (by decide)
      (by decide)).1
    have hbare : Tally.ofRecords ((operations.flatMap Operation.handed).filter fun record =>
        IsBare "pkg/a" record.path) = ⟨.clamp 12, .clamp 5⟩ := by decide +kernel
    rwa [hkey, hbare] at hentry
  · intro operations below
    have hrows := (tallyOf_eq_overall_below "pkg" "a" operations (by decide) (by decide)
      (by decide)).2
    rw [hkey] at hrows
    have hproper : ∀ record ∈ operations.flatMap Operation.handed,
        (ofPath "pkg").key? record.path = some "pkg/a" →
          ∃ entry rest, (ofPath "pkg/a").GoesOn record.path entry rest := by
      intro record hrecord hpackage
      simp only [operations, List.flatMap_cons, List.flatMap_nil, Operation.handed,
        List.cons_append, List.nil_append, List.append_nil, List.mem_cons, List.not_mem_nil,
        or_false] at hrecord
      rcases hrecord with rfl | rfl | rfl
      · exact ⟨['b'], "/x.go".toList, by decide, by decide, by decide, .inr rfl⟩
      · exact ⟨"c.go".toList, [], by decide, by decide, by decide, .inl rfl⟩
      · exact absurd hpackage (by decide)
    obtain ⟨hexists, htally⟩ := (hrows hproper).2 75
    obtain ⟨row, hmem, hname⟩ := hexists.mpr (by decide +kernel)
    obtain ⟨hcounts, hpercentage, -⟩ := htally row hmem hname
    exact ⟨row, hmem, hname, hcounts, hpercentage⟩

end Coverage

end PackageCoverage
