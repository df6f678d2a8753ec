import Mathlib.Data.List.TakeWhile
import PackageCoverage.Proofs.Text.Utf8
import PackageCoverage.Run

/-!
# Where settings come from

`Config.Loaded` says which settings a run starts from: those of the document at the path that is
given, those of the document at the usual place, or the defaults if there is nothing at the usual
place.  Both documents have to be files of text that set what they set to something that makes
sense, and one that is there but cannot be read is not taken for a missing one
(`Config.choose_of_not_file`).  Settings are chosen just when there are some to start from and they
still make sense with the given ones put over them (`Config.choose_eq_ok_iff`).
-/

namespace PackageCoverage

section Except

variable {ε ε' α β : Type}

theorem bind_eq_ok_iff {result : Except ε α} {next : α → Except ε β} {b : β} :
    result >>= next = .ok b ↔ ∃ a, result = .ok a ∧ next a = .ok b := by
  cases result <;> simp [bind, Except.bind]

theorem mapError_eq_ok_iff {result : Except ε α} {f : ε → ε'} {a : α} :
    result.mapError f = .ok a ↔ result = .ok a := by
  cases result <;> simp [Except.mapError]

end Except

/-! ## Files -/

namespace Directory

variable {directory : Directory} {path : String}

theorem readBytes_eq_ok_iff {bytes : List UInt8} :
    directory.readBytes path = .ok bytes ↔ directory.find path = .ok (.file bytes) := by
  rw [readBytes, bind_eq_ok_iff]
  constructor
  · rintro ⟨entry, hfind, hentry⟩
    cases entry with
    | file found =>
        obtain rfl : found = bytes := Except.ok.inj hentry
        exact hfind
    | directory => cases hentry
    | unopenable fault => cases hentry
    | broken found fault => cases hentry
  · intro hfind
    exact ⟨.file bytes, hfind, rfl⟩

theorem readText_eq_ok_iff {text : String} :
    directory.readText path = .ok text ↔
      ∃ bytes, directory.find path = .ok (.file bytes) ∧ Profile.decode? bytes = some text := by
  rw [readText, bind_eq_ok_iff]
  constructor
  · rintro ⟨bytes, hbytes, htext⟩
    refine ⟨bytes, readBytes_eq_ok_iff.mp hbytes, ?_⟩
    unfold Profile.decode?
    cases hdecode : String.fromUTF8? bytes.toByteArray with
    | none => rw [hdecode] at htext; cases htext
    | some found =>
        rw [hdecode] at htext
        exact congrArg some (Except.ok.inj htext)
  · rintro ⟨bytes, hfind, htext⟩
    refine ⟨bytes, readBytes_eq_ok_iff.mpr hfind, ?_⟩
    rw [Profile.decode?] at htext
    rw [htext]
    rfl

theorem holds_eq_false_iff :
    directory.holds path = false ↔ ∀ entry, directory.find path ≠ .ok entry := by
  unfold holds
  cases directory.find path <;> simp [Except.toOption]

theorem readText_of_not_file {entry : FileEntry} (hfind : directory.find path = .ok entry)
    (hentry : ∀ bytes, entry ≠ .file bytes) : ∃ fault, directory.readText path = .error fault := by
  cases hread : directory.readText path with
  | error fault => exact ⟨fault, rfl⟩
  | ok text =>
      obtain ⟨bytes, hfile, -⟩ := readText_eq_ok_iff.mp hread
      exact absurd (Except.ok.inj (hfind.symm.trans hfile)) (hentry bytes)

end Directory

/-! ## Settings that make sense -/

namespace Config

/-- The root is more than slashes, and the threshold is a percentage. -/
structure Valid (config : Config) : Prop where
  root : ∃ c ∈ config.root.toList, c ≠ '/'
  threshold : 0 ≤ config.threshold ∧ config.threshold ≤ 100

variable {config accepted : Config}

theorem isEmpty_ofPath_eq_false_iff {path : String} :
    (PackageRoot.ofPath path).path.isEmpty = false ↔ ∃ c ∈ path.toList, c ≠ '/' := by
  have hempty : (PackageRoot.ofPath path).path.isEmpty = true ↔ ∀ c ∈ path.toList, c = '/' := by
    change (PackageRoot.trimSlashes path).isEmpty = true ↔ _
    rw [String.isEmpty_iff, ← String.toList_eq_nil_iff, PackageRoot.trimSlashes,
      String.toList_ofList, List.reverse_eq_nil_iff, List.dropWhile_eq_nil_iff]
    simp
  rw [← Bool.not_eq_true, hempty]
  simp

theorem validated_eq_ok_iff :
    config.validated = .ok accepted ↔ config.Valid ∧ config = accepted := by
  unfold validated
  constructor
  · intro haccepted
    -- the root is looked at first
    split at haccepted
    · cases haccepted
    case isFalse hroot =>
        split at haccepted
        case isTrue hthreshold =>
            rw [Bool.not_eq_true, isEmpty_ofPath_eq_false_iff] at hroot
            exact ⟨⟨hroot, hthreshold⟩, Except.ok.inj haccepted⟩
        case isFalse => cases haccepted
  · rintro ⟨hvalid, rfl⟩
    have hroot := isEmpty_ofPath_eq_false_iff.mpr hvalid.root
    rw [if_neg (by rw [hroot]; exact Bool.false_ne_true), if_pos hvalid.threshold]

/-- The document at a path holds these settings, and they make sense. -/
structure ReadAt (directory : Directory) (path : String) (config : Config) : Prop where
  holds : ∃ bytes text, directory.find path = .ok (.file bytes) ∧
    Profile.decode? bytes = some text ∧ ofText text = .ok config
  valid : config.Valid

theorem readAt_eq_ok_iff {directory : Directory} {path : String} :
    readAt directory path = .ok config ↔ ReadAt directory path config := by
  simp only [readAt, bind_eq_ok_iff, mapError_eq_ok_iff, validated_eq_ok_iff,
    Directory.readText_eq_ok_iff]
  constructor
  · rintro ⟨text, ⟨bytes, hfind, htext⟩, found, hfound, hvalid, rfl⟩
    exact ⟨⟨bytes, text, hfind, htext, hfound⟩, hvalid⟩
  · rintro ⟨⟨bytes, text, hfind, htext, hconfig⟩, hvalid⟩
    exact ⟨text, ⟨bytes, hfind, htext⟩, config, hconfig, hvalid, rfl⟩

/-- The settings that a run starts from, if a path is given or if none is. -/
inductive Loaded (directory : Directory) : Option String → Config → Prop
  | given {path : String} {config : Config} (hread : ReadAt directory path config) :
    Loaded directory (some path) config
  | usual {config : Config} (hread : ReadAt directory defaultPath config) :
    Loaded directory none config
  | missing (hmissing : ∀ entry, directory.find defaultPath ≠ .ok entry) : Loaded directory none {}

private theorem readOrDefault_eq_ok_iff {directory : Directory} :
    (readOrDefault directory defaultPath).2 = .ok config ↔ Loaded directory none config := by
  unfold readOrDefault
  -- whether there is a document is settled before any of it is read
  cases hholds : directory.holds defaultPath with
  | true =>
      rw [if_pos rfl, readAt_eq_ok_iff]
      refine ⟨.usual, fun hloaded => ?_⟩
      cases hloaded with
      | usual hread => exact hread
      | missing hmissing =>
          rw [Directory.holds_eq_false_iff.mpr hmissing] at hholds
          cases hholds
  | false =>
      have hmissing := Directory.holds_eq_false_iff.mp hholds
      rw [if_neg Bool.false_ne_true]
      constructor
      · intro hdefault
        obtain rfl : {} = config := Except.ok.inj hdefault
        exact .missing hmissing
      · intro hloaded
        cases hloaded with
        | usual hread =>
            obtain ⟨bytes, _, hfind, _⟩ := hread.holds
            exact absurd hfind (hmissing _)
        | missing _ => rfl

/-- Settings are chosen just when there are some to start from, and they make sense with the
given ones put over them. -/
theorem choose_eq_ok_iff {directory : Directory} {path : Option String} {overrides : Overrides} :
    (choose directory path overrides).2 = .ok accepted ↔
      ∃ config, Loaded directory path config ∧ (overrides.over config).Valid ∧
        overrides.over config = accepted := by
  cases path with
  | some path =>
      simp only [choose, bind_eq_ok_iff, mapError_eq_ok_iff, validated_eq_ok_iff,
        readAt_eq_ok_iff]
      refine exists_congr fun config => and_congr_left' ⟨.given, fun hloaded => ?_⟩
      cases hloaded with
      | given hread => exact hread
  | none =>
      simp only [choose, bind_eq_ok_iff, mapError_eq_ok_iff, validated_eq_ok_iff]
      exact exists_congr fun config => and_congr_left' readOrDefault_eq_ok_iff

/-- Something at the place of the document that cannot be read up to an end is no reason to take
the defaults, and nothing that is put over them makes up for it. -/
theorem choose_of_not_file {directory : Directory} {path : Option String} {overrides : Overrides}
    {entry : FileEntry} (hfind : directory.find (path.getD defaultPath) = .ok entry)
    (hentry : ∀ bytes, entry ≠ .file bytes) :
    ∃ fault, (choose directory path overrides).2 =
      .error (.unreadableSettings (path.getD defaultPath) fault) := by
  obtain ⟨fault, hfault⟩ := Directory.readText_of_not_file hfind hentry
  refine ⟨fault, ?_⟩
  have hread : readAt directory (path.getD defaultPath) =
      .error (.unreadableSettings (path.getD defaultPath) fault) := by
    rw [readAt, hfault]
    rfl
  cases path with
  | some path =>
      rw [Option.getD_some] at hread
      simp only [choose, hread]
      rfl
  | none =>
      have hholds : directory.holds defaultPath = true := by
        rw [← Bool.not_eq_false, Directory.holds_eq_false_iff]
        exact fun hmissing => hmissing entry hfind
      rw [Option.getD_none] at hread
      simp only [choose, readOrDefault, hholds, if_true, hread]
      rfl

end Config

/-! ## What becomes of the settings -/

namespace Report

variable {directory : Directory} {path : Option String} {overrides : Overrides}

theorem run_of_choose_eq_ok {config : Config}
    (hchoose : (Config.choose directory path overrides).2 = .ok config) :
    (run directory path overrides).2 = (build directory config).2 := by
  unfold run
  generalize Config.choose directory path overrides = chosen at hchoose ⊢
  obtain ⟨events, result⟩ := chosen
  obtain rfl : result = .ok config := hchoose
  rfl

theorem run_of_choose_eq_error {failure : Failure}
    (hchoose : (Config.choose directory path overrides).2 = .error failure) :
    (run directory path overrides).2 = .error failure := by
  unfold run
  generalize Config.choose directory path overrides = chosen at hchoose ⊢
  obtain ⟨events, result⟩ := chosen
  obtain rfl : result = .error failure := hchoose
  rfl

end Report

end PackageCoverage
