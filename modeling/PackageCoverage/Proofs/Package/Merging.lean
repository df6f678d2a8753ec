import PackageCoverage.Proofs.Package.History
import PackageCoverage.Proofs.Profile.Items

/-!
# Coverages in parts

Records can be counted in parts, each from a new coverage, and the parts put together
afterwards.  `IsMerge` says what putting together means: packages are those of either part,
tallies are added key by key, and so are the totals and the numbers of records outside of all
packages.

A part is known by the records handed to it (`Reflects`), and so is its overall tally
(`Reflects.overall_eq`).  Whatever two runs do, their merge is therefore the run that does both
one after the other (`isMerge_run`), although the counters of the parts may have stopped at the
limit before they are added.
-/

namespace PackageCoverage

namespace Coverage

/-- One coverage has the packages of two others, with their tallies added. -/
structure IsMerge (whole first second : Coverage) : Prop where
  isSome_get? : ∀ key, (whole.packages.get? key).isSome =
    ((first.packages.get? key).isSome || (second.packages.get? key).isSome)
  getD_get? : ∀ key, (whole.packages.get? key).getD 0 =
    (first.packages.get? key).getD 0 + (second.packages.get? key).getD 0
  outside_eq : whole.outside = first.outside + second.outside
  overall_eq : whole.overall = first.overall + second.overall

variable {root : PackageRoot} {coverage whole first second : Coverage}
  {handed counted handed₁ counted₁ handed₂ counted₂ : List Record}

/-! ## Overall tallies -/

theorem overall_count (coverage : Coverage) (record : Record) :
    (coverage.count record).overall =
      coverage.overall + if (coverage.key? record).isSome then .ofRecord record else 0 := by
  rw [count_eq]
  change (coverage.add record).packages.overall = _
  unfold add
  cases coverage.key? record with
  | none => exact (add_zero coverage.overall).symm
  | some key => exact PackageTable.overall_add coverage.packages key (.ofRecord record)

/-- The records of a list that are in some package. -/
def inside (root : PackageRoot) (records : List Record) : List Record :=
  records.filter fun record => (root.key? record.path).isSome

theorem overall_countAll (coverage : Coverage) (records : List Record) :
    (coverage.countAll records).overall =
      coverage.overall + .ofRecords (inside coverage.root records) := by
  induction records generalizing coverage with
  | nil => exact (add_zero coverage.overall).symm
  | cons record later ih =>
      have hlater : (coverage.countAll (record :: later)).overall =
          (coverage.count record).overall + .ofRecords (inside coverage.root later) := by
        -- counting keeps the root, so the later records are inside or outside as before
        rw [← root_count coverage record]
        exact ih (coverage.count record)
      rw [hlater, overall_count, add_assoc]
      congr 1
      unfold Coverage.key? inside
      rw [List.filter_cons]
      split
      · rw [Tally.ofRecords_cons]
      · exact zero_add _

theorem Reflects.packages_eq (hfirst : first.Reflects root handed counted₁)
    (hsecond : second.Reflects root handed counted₂) : first.packages = second.packages := by
  refine PackageTable.ext_get? fun key => ?_
  rw [hfirst.get?_eq, hsecond.get?_eq]

/-- The overall tally is that of all records in packages. -/
theorem Reflects.overall_eq (reflects : coverage.Reflects root handed counted) :
    coverage.overall = .ofRecords (inside root handed) := by
  have hcount : ((empty root).countAll handed).Reflects root handed handed :=
    (reflects_empty root).countAll handed
  rw [overall, reflects.packages_eq hcount]
  change ((empty root).countAll handed).overall = _
  rw [overall_countAll]
  exact zero_add _

/-! ## Merges -/

private theorem isSome_tally?_append (root : PackageRoot) (key : String)
    (records₁ records₂ : List Record) :
    (root.tally? key (records₁ ++ records₂)).isSome =
      ((root.tally? key records₁).isSome || (root.tally? key records₂).isSome) := by
  unfold PackageRoot.tally?
  rw [PackageRoot.recordsIn_append]
  by_cases hfirst : root.recordsIn key records₁ = []
  · by_cases hsecond : root.recordsIn key records₂ = [] <;> simp [hfirst, hsecond]
  · simp [hfirst]

/-- Handing over the records of two coverages makes their merge. -/
theorem Reflects.isMerge
    (hwhole : whole.Reflects root (handed₁ ++ handed₂) (counted₁ ++ counted₂))
    (hfirst : first.Reflects root handed₁ counted₁)
    (hsecond : second.Reflects root handed₂ counted₂) : whole.IsMerge first second where
  isSome_get? key := by
    rw [hwhole.get?_eq, hfirst.get?_eq, hsecond.get?_eq]
    exact isSome_tally?_append root key handed₁ handed₂
  getD_get? key := by
    rw [hwhole.get?_eq, hfirst.get?_eq, hsecond.get?_eq, PackageRoot.getD_tally?,
      PackageRoot.getD_tally?, PackageRoot.getD_tally?, PackageRoot.recordsIn_append,
      Tally.ofRecords_append]
  outside_eq := by
    rw [hwhole.outside_eq, hfirst.outside_eq, hsecond.outside_eq, List.filter_append,
      List.length_append]
  overall_eq := by
    rw [hwhole.overall_eq, hfirst.overall_eq, hsecond.overall_eq, inside, List.filter_append,
      Tally.ofRecords_append]
    rfl

theorem isMerge_run (path : String) (operations₁ operations₂ : List Operation) :
    (run path (operations₁ ++ operations₂)).IsMerge (run path operations₁)
      (run path operations₂) := by
  have hwhole := reflects_run path (operations₁ ++ operations₂)
  rw [List.flatMap_append, List.flatMap_append] at hwhole
  exact hwhole.isMerge (reflects_run path operations₁) (reflects_run path operations₂)

/-! ## Profiles in parts -/

open Profile

theorem countAll_append (coverage : Coverage) (records₁ records₂ : List Record) :
    coverage.countAll (records₁ ++ records₂) =
      (coverage.countAll records₁).countAll records₂ :=
  List.foldl_append

/-- A profile that is put behind whole lines is counted as if it came on its own. -/
theorem countProfile_append {front back : List UInt8} (hfront : (decode? front).isSome)
    (hback : (decode? back).isSome) (hends : front = [] ∨ front.getLast? = some lineFeed)
    (coverage : Coverage) :
    ∃ m n, (coverage.countProfile front).2 = .ok m ∧
      ((coverage.countProfile front).1.countProfile back).2 = .ok n ∧
      coverage.countProfile (front ++ back) =
        (((coverage.countProfile front).1.countProfile back).1, .ok (m + n)) := by
  have hcomplete : ∀ {bytes : List UInt8}, (decode? bytes).isSome →
      (read bytes).complete = true := by
    intro bytes htext
    obtain ⟨text, htext⟩ := Option.isSome_iff_exists.mp htext
    exact (read_of_decode?_eq_some htext).2
  -- both parts are read to their ends, and the first one ends between two lines
  obtain ⟨hrecords, hboth⟩ := records_read_append hends (hcomplete hfront) back
  refine ⟨(read front).records.length, (read back).records.length, ?_, ?_, ?_⟩
  · rw [countProfile_eq, if_pos (hcomplete hfront)]
  · rw [countProfile_eq, if_pos (hcomplete hback)]
  · rw [countProfile_eq, countProfile_eq coverage, countProfile_eq, hboth,
      if_pos (hcomplete hback), hrecords, List.length_append, countReading, hrecords,
      countAll_append]
    rfl

/-- **Counting in parts.**  The coverage of two lists of records one after the other is the merge
of the coverages of each list alone, for all counts and also where a counter stops at the limit.
The same holds of two profiles that are text, the first of which ends with a whole line or is
empty: counting them one after the other leads to the same coverage as counting them as one
profile, which is the merge of the coverages of each profile alone. -/
theorem isMerge_append (path : String) (records₁ records₂ : List Record) :
    ((empty (.ofPath path)).countAll (records₁ ++ records₂)).IsMerge
        ((empty (.ofPath path)).countAll records₁) ((empty (.ofPath path)).countAll records₂) ∧
      ∀ front back : List UInt8, (decode? front).isSome → (decode? back).isSome →
        (front = [] ∨ front.getLast? = some lineFeed) →
        ∃ whole m n,
          (empty (.ofPath path)).countProfile (front ++ back) = (whole, .ok (m + n)) ∧
          ((empty (.ofPath path)).countProfile front).1.countProfile back = (whole, .ok n) ∧
          ((empty (.ofPath path)).countProfile front).2 = .ok m ∧
          whole.IsMerge ((empty (.ofPath path)).countProfile front).1
            ((empty (.ofPath path)).countProfile back).1 := by
  constructor
  · have hmerge := isMerge_run path [.countAll records₁] [.countAll records₂]
    have hwhole : run path ([.countAll records₁] ++ [.countAll records₂]) =
        (empty (.ofPath path)).countAll (records₁ ++ records₂) :=
      (countAll_append _ records₁ records₂).symm
    rwa [hwhole] at hmerge
  · intro front back hfront hback hends
    obtain ⟨m, n, hm, hn, happend⟩ :=
      countProfile_append hfront hback hends (empty (.ofPath path))
    refine ⟨_, m, n, happend, ?_, hm, ?_⟩
    · rw [← hn]
    · exact isMerge_run path [.countProfile front] [.countProfile back]

/-- The first part brings one package to the limit, the second adds to it and to another one. -/
theorem isMerge_append_at_limit :
    ∃ whole m n,
      (empty (.ofPath "pkg")).countProfile
        ("pkg/a/x.go:1 18446744073709551615 1\n".toUTF8.toList ++
          "pkg/a/y.go:1 7 1\npkg/b/z.go:1 2 0".toUTF8.toList) = (whole, .ok (m + n)) ∧
      ((empty (.ofPath "pkg")).countProfile
          "pkg/a/x.go:1 18446744073709551615 1\n".toUTF8.toList).1.countProfile
        "pkg/a/y.go:1 7 1\npkg/b/z.go:1 2 0".toUTF8.toList = (whole, .ok n) ∧
      ((empty (.ofPath "pkg")).countProfile
        "pkg/a/x.go:1 18446744073709551615 1\n".toUTF8.toList).2 = .ok m ∧
      whole.IsMerge
        ((empty (.ofPath "pkg")).countProfile
          "pkg/a/x.go:1 18446744073709551615 1\n".toUTF8.toList).1
        ((empty (.ofPath "pkg")).countProfile
          "pkg/a/y.go:1 7 1\npkg/b/z.go:1 2 0".toUTF8.toList).1 :=
  (isMerge_append "pkg" [] []).2 _ _ (by decide +kernel) (by decide +kernel)
    (.inr (by decide +kernel))

end Coverage

end PackageCoverage
