import Mathlib.Data.Multiset.MapFold
import PackageCoverage.Proofs.Package.History
import PackageCoverage.Proofs.Profile.WholeText
import PackageCoverage.Run

/-!
# What a report depends on

All that a record tells a report is its package, the number of its statements and
whether they are covered (`Fact`).  The order of records is of no account either, so a
report is known by the multiset of the facts in a profile (`build_eq_of_facts`).

* **One step.**  Counting a record is counting its fact (`Coverage.count_eq_countFact`),
  and two facts can be counted in either order (`Coverage.countFact_swap`), whether they
  go to one entry or to two and whether or not a counter stops at the limit.
* **A whole profile.**  The fold over the records is a fold over the multiset of their
  facts (`Coverage.countAll_eq_of_facts`).
* **Editing.**  Moving lines around, putting in or taking out lines without a record,
  and changing a positive number of executions or a file within its package keep the
  facts (`Rearranged.facts_eq`).
-/

namespace PackageCoverage

/-- What a record tells about the packages under a root: the package it is in, if it is in
one, the number of its statements, and whether they are covered. -/
structure Fact where
  key? : Option String
  statements : Count
  isCovered : Bool
deriving DecidableEq

/-- The fact that a record tells. -/
def Record.fact (root : PackageRoot) (record : Record) : Fact :=
  ⟨root.key? record.path, record.statements, record.isCovered⟩

/-- The tally of the statements that a fact is about. -/
def Fact.tally (fact : Fact) : Tally :=
  ⟨fact.statements, if fact.isCovered then fact.statements else 0⟩

/-- The facts in the lines of a profile, each as often as there are lines that tell it. -/
def Profile.facts (root : PackageRoot) (texts : List String) : Multiset Fact :=
  (texts.filterMap fun text => (Line.read text).record?).map (Record.fact root)

/-! ## Counting facts -/

namespace Coverage

/-- The coverage with one more fact. -/
def countFact (coverage : Coverage) (fact : Fact) : Coverage :=
  match fact.key? with
  | some key => { coverage with packages := coverage.packages.add key fact.tally }
  | none => { coverage with outside := coverage.outside + 1 }

theorem count_eq_countFact (coverage : Coverage) (record : Record) :
    coverage.count record = coverage.countFact (record.fact coverage.root) := by
  unfold count add countFact Coverage.key? Record.fact
  cases coverage.root.key? record.path <;> rfl

theorem countFact_swap (coverage : Coverage) (first second : Fact) :
    (coverage.countFact first).countFact second = (coverage.countFact second).countFact first := by
  unfold countFact
  cases first.key? with
  | none => cases second.key? <;> rfl
  | some key₁ =>
      cases second.key? with
      | none => rfl
      | some key₂ =>
          -- both facts go to the table, to one entry or to two
          simp only [mk.injEq, true_and, and_true]
          exact PackageTable.add_swap coverage.packages key₁ key₂ first.tally second.tally

private theorem countAll_eq_foldl (coverage : Coverage) (records : List Record) :
    coverage.countAll records =
      (records.map (Record.fact coverage.root)).foldl countFact coverage := by
  induction records generalizing coverage with
  | nil => rfl
  | cons record later ih =>
      -- the records behind this one are counted from the coverage with its fact
      change (coverage.count record).countAll later = _
      rw [ih, root_count, List.map_cons, List.foldl_cons, count_eq_countFact]

/-- Records that tell the same facts are counted alike, in whichever order they come. -/
theorem countAll_eq_of_facts (coverage : Coverage) {first second : List Record}
    (hfacts : (first.map (Record.fact coverage.root)).Perm
      (second.map (Record.fact coverage.root))) :
    coverage.countAll first = coverage.countAll second := by
  rw [countAll_eq_foldl, countAll_eq_foldl]
  refine hfacts.foldl_eq' ?_ coverage
  intro fact₁ _ fact₂ _ current
  exact countFact_swap current fact₁ fact₂

end Coverage

/-! ## Rearranged profiles -/

namespace Profile

/-- The lines of a profile come from those of another by edits that a report does not show:
lines change places, a header, a blank line or a malformed one comes in, a positive number
of executions becomes another one, and a file moves within its package.  Edits can be taken
back and follow each other. -/
inductive Rearranged (root : PackageRoot) : List String → List String → Prop
  | reorder {first second : List String} (hperm : first.Perm second) :
    Rearranged root first second
  | insert {text : String} (front back : List String) (hskipped : (Line.read text).record? = none) :
    Rearranged root (front ++ back) (front ++ text :: back)
  | recount {first second path : String} {statements executions₁ executions₂ : Count}
    (front back : List String)
    (hfirst : (Line.read first).record? = some ⟨path, statements, executions₁⟩)
    (hsecond : (Line.read second).record? = some ⟨path, statements, executions₂⟩)
    (hexecuted₁ : 0 < executions₁.value) (hexecuted₂ : 0 < executions₂.value) :
    Rearranged root (front ++ first :: back) (front ++ second :: back)
  | move {first second path₁ path₂ : String} {statements executions : Count}
    (front back : List String)
    (hfirst : (Line.read first).record? = some ⟨path₁, statements, executions⟩)
    (hsecond : (Line.read second).record? = some ⟨path₂, statements, executions⟩)
    (hkey : root.key? path₁ = root.key? path₂) :
    Rearranged root (front ++ first :: back) (front ++ second :: back)
  | symm {first second : List String} (hback : Rearranged root second first) :
    Rearranged root first second
  | trans {first second third : List String} (hthere : Rearranged root first second)
    (hon : Rearranged root second third) : Rearranged root first third

variable {root : PackageRoot} {first second : List String}

@[simp] theorem facts_append (root : PackageRoot) (first second : List String) :
    facts root (first ++ second) = facts root first + facts root second := by
  simp [facts]

@[simp] theorem facts_cons (root : PackageRoot) (text : String) (later : List String) :
    facts root (text :: later) =
      ((Line.read text).record?.map (Record.fact root)).toList + facts root later := by
  cases hrecord : (Line.read text).record? <;> simp [facts, hrecord]

/-- A rearranged profile tells the same facts. -/
theorem Rearranged.facts_eq (hrearranged : Rearranged root first second) :
    facts root first = facts root second := by
  induction hrearranged with
  | reorder hperm => exact Multiset.coe_eq_coe.mpr ((hperm.filterMap _).map _)
  | insert front back hskipped => simp [hskipped]
  | recount front back hfirst hsecond hexecuted₁ hexecuted₂ =>
      -- both numbers of executions are positive, so the statements are covered in both
      simp [hfirst, hsecond, Record.fact, Record.isCovered, hexecuted₁, hexecuted₂]
  | move front back hfirst hsecond hkey =>
      simp [hfirst, hsecond, Record.fact, Record.isCovered, hkey]
  | symm _ ih => exact ih.symm
  | trans _ _ ih₁ ih₂ => exact ih₁.trans ih₂

end Profile

/-! ## Reports on the same facts -/

namespace Report

open Profile

/-- The end of a build whose profile is text. -/
private theorem build_of_isSome_decode? {directory : Directory} {bytes : List UInt8}
    (config : Config) (hfile : directory.find config.input = .ok (.file bytes))
    (htext : (decode? bytes).isSome) :
    (build directory config).2 =
        .ok (ofReading (.ofPath config.root) config.threshold (read bytes)) ∧
      (build directory config).1.getLast? =
        let coverage := (Coverage.empty (.ofPath config.root)).countReading (read bytes)
        some (.tallied coverage.packages.size (read bytes).records.length coverage.outside) := by
  obtain ⟨text, htext⟩ := Option.isSome_iff_exists.mp htext
  have hcomplete := (read_of_decode?_eq_some htext).2
  simp [build, hfile, readingEvents, hcomplete]

/-- **A report depends on the facts only.**  Two profiles that are text and tell the same
facts, or one of which is a rearranged form of the other, lead to one and the same report,
with its rows, totals and text, and to the same numbers of packages, of records and of
records outside of all packages. -/
theorem build_eq_of_facts {directory₁ directory₂ : Directory} {input₁ input₂ root : String}
    {threshold : Binary64} {first second : List UInt8}
    (hfirst : directory₁.find input₁ = .ok (.file first))
    (hsecond : directory₂.find input₂ = .ok (.file second))
    (htext₁ : (decode? first).isSome) (htext₂ : (decode? second).isSome)
    (hsame : facts (.ofPath root) (read first).texts = facts (.ofPath root) (read second).texts ∨
      Rearranged (.ofPath root) (read first).texts (read second).texts) :
    ∃ report packages records outside,
      (build directory₁ ⟨input₁, root, threshold⟩).2 = .ok report ∧
      (build directory₂ ⟨input₂, root, threshold⟩).2 = .ok report ∧
      (build directory₁ ⟨input₁, root, threshold⟩).1.getLast? =
        some (.tallied packages records outside) ∧
      (build directory₂ ⟨input₂, root, threshold⟩).1.getLast? =
        some (.tallied packages records outside) := by
  have hfacts : ((read first).records.map (Record.fact (.ofPath root))).Perm
      ((read second).records.map (Record.fact (.ofPath root))) :=
    Multiset.coe_eq_coe.mp (hsame.elim id Rearranged.facts_eq)
  -- counting looks at facts only, so both profiles lead to one coverage
  have hcoverage : (Coverage.empty (.ofPath root)).countReading (read first) =
      (Coverage.empty (.ofPath root)).countReading (read second) :=
    Coverage.countAll_eq_of_facts (.empty (.ofPath root)) hfacts
  have hlength : (read first).records.length = (read second).records.length := by
    simpa using hfacts.length_eq
  obtain ⟨hreport₁, htallied₁⟩ :=
    build_of_isSome_decode? ⟨input₁, root, threshold⟩ hfirst htext₁
  obtain ⟨hreport₂, htallied₂⟩ :=
    build_of_isSome_decode? ⟨input₂, root, threshold⟩ hsecond htext₂
  refine ⟨_, _, _, _, hreport₁, ?_, htallied₁, ?_⟩
  · rw [hreport₂, ofReading, ofReading, hcoverage]
  · rw [htallied₂, hcoverage, hlength]

/-- Two lines change places, a header goes, a blank line comes, a file moves within its
package and is executed more often. -/
theorem build_eq_of_facts_swapped :
    ∃ report packages records outside,
      (build ⟨fun _ => .ok (.file
        "mode: set\npkg/a/x.go:1.1,2.2 3 1\npkg/b/y.go:1.1,9.2 2 0\n".toUTF8.toList)⟩
        ⟨"set.out", "pkg/", 75⟩).2 = .ok report ∧
      (build ⟨fun _ => .ok (.file
        "pkg/b/y.go:1.1,9.2 2 0\n\npkg/a/z.go:1.1,2.2 3 7".toUTF8.toList)⟩
        ⟨"count.out", "pkg/", 75⟩).2 = .ok report ∧
      (build ⟨fun _ => .ok (.file
        "mode: set\npkg/a/x.go:1.1,2.2 3 1\npkg/b/y.go:1.1,9.2 2 0\n".toUTF8.toList)⟩
        ⟨"set.out", "pkg/", 75⟩).1.getLast? = some (.tallied packages records outside) ∧
      (build ⟨fun _ => .ok (.file
        "pkg/b/y.go:1.1,9.2 2 0\n\npkg/a/z.go:1.1,2.2 3 7".toUTF8.toList)⟩
        ⟨"count.out", "pkg/", 75⟩).1.getLast? = some (.tallied packages records outside) :=
  build_eq_of_facts rfl rfl (by decide +kernel) (by decide +kernel) (.inl (by decide +kernel))

end Report

end PackageCoverage
