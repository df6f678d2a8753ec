import PackageCoverage.CommandLine.Outcome
import PackageCoverage.Proofs.Config.Loading
import PackageCoverage.Proofs.Profile.WholeText

/-!
# All or nothing

A call that asks for a report ends in one of two ways.  Either every step of the run succeeds,
and the whole report is written, or some step fails, and nothing is written to the first stream.
`Report.Made` says which reports come out of a run without looking at the order of its steps;
lines that are skipped and records outside of all packages are no failures there.

The run makes a report just when there is one to be made (`Report.run_eq_ok_iff`), which is
shown stage by stage: the settings (`Config.choose_eq_ok_iff`) and then the profile
(`Report.build_eq_ok_iff`), which may fail at any of its lines.
-/

namespace PackageCoverage

namespace Report

open Profile

variable {directory : Directory} {path : Option String} {overrides : Overrides} {report : Report}

/-- The report of a run: there are settings that make sense, also with the given ones put over
them, and the profile that they name is a file of text, which is counted as a whole. -/
inductive Made (directory : Directory) (path : Option String) (overrides : Overrides) :
    Report → Prop
  | intro {config : Config} {bytes : List UInt8} (hloaded : Config.Loaded directory path config)
    (hvalid : (overrides.over config).Valid)
    (hfile : directory.find (overrides.over config).input = .ok (.file bytes))
    (htext : (decode? bytes).isSome) :
    Made directory path overrides
      (ofCoverage ((Coverage.empty (.ofPath (overrides.over config).root)).countProfile bytes).1
        (overrides.over config).threshold)

theorem build_eq_ok_iff {config : Config} :
    (build directory config).2 = .ok report ↔
      ∃ bytes, directory.find config.input = .ok (.file bytes) ∧ (decode? bytes).isSome ∧
        ofCoverage ((Coverage.empty (.ofPath config.root)).countProfile bytes).1
          config.threshold = report := by
  unfold build
  cases hfind : directory.find config.input with
  | error fault => simp
  | ok entry =>
      cases entry with
      | directory => simp
      | unopenable fault => simp
      | broken bytes fault => simp
      | file bytes =>
          have hcoverage : ofReading (.ofPath config.root) config.threshold (read bytes) =
              ofCoverage ((Coverage.empty (.ofPath config.root)).countProfile bytes).1
                config.threshold := by
            rw [ofReading, Coverage.countProfile_eq]
          -- the last step is the only one that looks at the bytes
          dsimp only
          rw [complete_read, hcoverage]
          cases hbytes : (decode? bytes).isSome <;> simp [hbytes]

theorem run_eq_ok_iff : (run directory path overrides).2 = .ok report ↔
    Made directory path overrides report := by
  have hchoose : (run directory path overrides).2 = .ok report ↔
      ∃ config, (Config.choose directory path overrides).2 = .ok config ∧
        (build directory config).2 = .ok report := by
    -- without settings there is nothing to build
    cases hchosen : (Config.choose directory path overrides).2 with
    | ok config => simp [run_of_choose_eq_ok hchosen]
    | error failure => simp [run_of_choose_eq_error hchosen]
  rw [hchoose]
  constructor
  · rintro ⟨config, hconfig, hreport⟩
    obtain ⟨loaded, hloaded, hvalid, rfl⟩ := Config.choose_eq_ok_iff.mp hconfig
    obtain ⟨bytes, hfile, htext, rfl⟩ := build_eq_ok_iff.mp hreport
    exact .intro hloaded hvalid hfile htext
  · rintro ⟨hloaded, hvalid, hfile, htext⟩
    refine ⟨_, Config.choose_eq_ok_iff.mpr ⟨_, hloaded, hvalid, rfl⟩, ?_⟩
    exact build_eq_ok_iff.mpr ⟨_, hfile, htext, rfl⟩

end Report

namespace CommandLine

variable {environment : Environment} {options : Options}

theorem report_of_run_eq_ok {made : Report}
    (hrun : (Report.run environment.directory options.config options.overrides).2 = .ok made) :
    (report environment options).status = 0 ∧
      (report environment options).output = made.render environment.colourReport := by
  unfold report
  generalize Report.run environment.directory options.config options.overrides = ended at hrun ⊢
  obtain ⟨events, result⟩ := ended
  obtain rfl : result = .ok made := hrun
  exact ⟨rfl, rfl⟩

theorem report_of_run_eq_error {failure : Failure}
    (hrun : (Report.run environment.directory options.config options.overrides).2 =
      .error failure) :
    (report environment options).status = 1 ∧ (report environment options).output = "" := by
  unfold report
  generalize Report.run environment.directory options.config options.overrides = ended at hrun ⊢
  obtain ⟨events, result⟩ := ended
  obtain rfl : result = .error failure := hrun
  exact ⟨rfl, rfl⟩

/-- **All or nothing.**  The status of a call that asks for a report is zero or one.  It is zero
just when there is a report to be made, and then the first stream has the text of that report,
with colour only if the stream takes colour.  In every other case nothing is written to it. -/
theorem call_all_or_nothing (environment : Environment) {arguments : List String}
    {options : Options} (hread : read arguments = .ok (.report options)) :
    ((call environment arguments).status = 0 ∨ (call environment arguments).status = 1) ∧
      ((call environment arguments).status = 0 ↔
        ∃ made, Report.Made environment.directory options.config options.overrides made) ∧
      (∀ made, Report.Made environment.directory options.config options.overrides made →
        (call environment arguments).output = made.render environment.colourReport) ∧
      ((call environment arguments).status = 1 → (call environment arguments).output = "") := by
  have hcall : call environment arguments = report environment options := by
    rw [call, hread]
  rw [hcall]
  -- the status only tells which of the two ends the run came to
  cases hrun : (Report.run environment.directory options.config options.overrides).2 with
  | ok made =>
      obtain ⟨hstatus, houtput⟩ := report_of_run_eq_ok hrun
      refine ⟨.inl hstatus, iff_of_true hstatus ⟨made, Report.run_eq_ok_iff.mp hrun⟩, ?_, ?_⟩
      · intro other hother
        rw [← Report.run_eq_ok_iff, hrun, Except.ok.injEq] at hother
        rw [houtput, hother]
      · intro hone
        rw [hstatus] at hone
        cases hone
  | error failure =>
      obtain ⟨hstatus, houtput⟩ := report_of_run_eq_error hrun
      have hnone : ∀ made,
          ¬ Report.Made environment.directory options.config options.overrides made := by
        intro made hmade
        rw [← Report.run_eq_ok_iff, hrun] at hmade
        cases hmade
      refine ⟨.inr hstatus, iff_of_false (by rw [hstatus]; decide) ?_, ?_, fun _ => houtput⟩
      · rintro ⟨made, hmade⟩
        exact hnone made hmade
      · intro made hmade
        exact absurd hmade (hnone made)

-- settings that are there and cannot be opened are not taken for missing ones
example :
    let denied := FileFault.other "Permission denied (os error 13)"
    let environment : Environment := {
      directory := .ofAnswers [("covpkg.toml", .ok (.unopenable denied)),
        ("coverage.out", .ok (.file "pkg/a/x.go:1 3 1\n".toUTF8.toList))] }
    let outcome := call environment ["--prefix", "pkg"]
    outcome.status = 1 ∧ outcome.output = "" ∧ outcome.failure =
      some "Error: Failed to read config file: covpkg.toml: Permission denied (os error 13)" := by
  decide +kernel

/-- Nothing is written of a profile that has a record first and then a last line that is no
text. -/
theorem call_all_or_nothing_of_bad_last_line :
    let bytes := "pkg/a/x.go:1 3 1\n".toUTF8.toList ++ [0xff]
    let environment : Environment :=
      ⟨.ofAnswers [("x.out", .ok (.file bytes))], none, false, false⟩
    let arguments := ["--prefix=pkg", "-v", "x.out"]
    read arguments = .ok (.report ⟨none, ⟨some "x.out", some "pkg", none⟩, true⟩) ∧
      (call environment arguments).status = 1 ∧ (call environment arguments).output = "" := by
  intro bytes environment arguments
  have hread : read arguments = .ok (.report ⟨none, ⟨some "x.out", some "pkg", none⟩, true⟩) := by
    rfl
  have hnotext : Profile.decode? ("pkg/a/x.go:1 3 1\n".toUTF8.toList ++ [0xff]) = none := by
    decide +kernel
  obtain ⟨hstatus, hzero, -, hempty⟩ := call_all_or_nothing environment hread
  -- a report would have been made of bytes that are no text
  have hone : (call environment arguments).status = 1 := by
    refine hstatus.resolve_left fun hstatus => ?_
    obtain ⟨_, -, -, hfile, htext⟩ := hzero.mp hstatus
    cases hfile
    rw [hnotext] at htext
    cases htext
  exact ⟨hread, hone, hempty hone⟩

end CommandLine

end PackageCoverage
