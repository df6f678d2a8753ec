import PackageCoverage.Proofs.Config.Loading
import PackageCoverage.Proofs.Toml.Keys

/-!
# Settings in layers

Each setting comes from the first of three layers that has it: what is given with the run, the
document, and the defaults.  `Config.Setting` says so for one setting and only asks which keys
the document has, so neither the other settings nor the order of the keys play a part.

A document is looked at before anything is put over it, and has to make sense by itself
(`Config.Alone`).  Then the settings of a run are the layered ones, if they make sense too
(`Config.choose_eq_ok_iff_layered`).

* **The document.**  The keys are taken in order, and each sets one setting
  (`withEntry_eq_ok_iff`).  As no key comes twice, the settings at the end are the layered ones
  (`ofEntries_eq_ok_iff`).
* **The given settings.**  They go over settings that are layered already (`Layered.over_iff`).
-/

namespace PackageCoverage

namespace Toml.Value

/-- The text of a value that is a text. -/
def text? : Value → Option String
  | .string text => some text
  | _ => none

/-- The number that is written, with a point or without one. -/
def number? : Value → Option Binary64
  | .float value => some value
  | .integer value => some (.ofInt value)
  | _ => none

end Toml.Value

namespace Config

open Toml (Entries)

/-- Where one setting comes from.  It is given, or the document has it under its key, or it is
what it usually is. -/
inductive Setting {α : Type} (read : Toml.Value → Option α) (key : String) (usual : α)
    (entries : Entries) : Option α → α → Prop
  | given (a : α) : Setting read key usual entries (some a) a
  | written {value : Toml.Value} {a : α} (hmem : (key, value) ∈ entries)
    (hread : read value = some a) : Setting read key usual entries none a
  | absent (habsent : ∀ value, (key, value) ∉ entries) : Setting read key usual entries none usual

/-- The settings, each from the first layer that has it. -/
@[mk_iff]
structure Layered (usual : Config) (overrides : Overrides) (entries : Entries)
    (config : Config) : Prop where
  input : Setting Toml.Value.text? "input" usual.input entries overrides.input config.input
  root : Setting Toml.Value.text? "package_prefix" usual.root entries overrides.root config.root
  threshold : Setting Toml.Value.number? "threshold" usual.threshold entries overrides.threshold
    config.threshold

/-- The keys that a document may hold. -/
def keys : List String := ["input", "package_prefix", "threshold"]

/-- The settings that a document makes without anything put over it.  It holds no other keys,
and its settings make sense. -/
structure Alone (entries : Entries) (own : Config) : Prop where
  mem_keys : ∀ entry ∈ entries, entry.1 ∈ keys
  layered : Layered {} {} entries own
  valid : own.Valid

/-! ## One setting -/

section Setting

variable {α : Type} {read : Toml.Value → Option α} {key : String} {usual a b : α}
  {entries : Entries} {given : Option α}

theorem setting_none_iff : Setting read key usual entries none a ↔
    (∃ value, (key, value) ∈ entries ∧ read value = some a) ∨
      (∀ value, (key, value) ∉ entries) ∧ usual = a := by
  constructor
  · intro hsetting
    cases hsetting with
    | written hmem hread => exact .inl ⟨_, hmem, hread⟩
    | absent habsent => exact .inr ⟨habsent, rfl⟩
  · rintro (⟨value, hmem, hread⟩ | ⟨habsent, rfl⟩)
    · exact .written hmem hread
    · exact .absent habsent

theorem setting_nil : Setting read key usual [] none a ↔ usual = a := by
  simp [setting_none_iff]

theorem setting_singleton {name : String} {value : Toml.Value} :
    Setting read key usual [(name, value)] none a ↔
      if name = key then read value = some a else usual = a := by
  rw [setting_none_iff]
  by_cases hname : name = key
  · simp [hname]
  · simp [hname, Ne.symm hname]

/-- Later keys start from what the first one leaves. -/
theorem setting_cons {entry : String × Toml.Value} (hentry : ∀ value, (entry.1, value) ∉ entries) :
    Setting read key usual (entry :: entries) none a ↔
      ∃ b, Setting read key usual [entry] none b ∧ Setting read key b entries none a := by
  obtain ⟨name, value⟩ := entry
  simp only [setting_none_iff, List.mem_cons, Prod.mk.injEq]
  by_cases hname : name = key
  · subst hname
    simp [hentry]
  · simp [Ne.symm hname]

theorem Setting.unique (hapart : entries.KeysApart) (ha : Setting read key usual entries given a)
    (hb : Setting read key usual entries given b) : a = b := by
  -- keys are apart, so both values come from the same place
  cases ha with
  | given => cases hb; rfl
  | written hmem hread =>
      cases hb with
      | written hother hreadOther =>
          obtain rfl := hapart.value_unique hmem hother
          exact Option.some.inj (hread.symm.trans hreadOther)
      | absent habsent => exact absurd hmem (habsent _)
  | absent habsent =>
      cases hb with
      | written hother _ => exact absurd hother (habsent _)
      | absent _ => rfl

theorem Setting.getD (hown : Setting read key usual entries none a) :
    Setting read key usual entries given (given.getD a) := by
  cases given with
  | some b => exact .given b
  | none => exact hown

end Setting

/-! ## All settings -/

variable {start next own config : Config} {overrides : Overrides} {entries : Entries}

theorem Layered.over_iff (hapart : entries.KeysApart) (hown : Layered start {} entries own) :
    Layered start overrides entries config ↔ overrides.over own = config := by
  have hover : Layered start overrides entries (overrides.over own) :=
    ⟨hown.input.getD, hown.root.getD, hown.threshold.getD⟩
  constructor
  · rintro ⟨hinput, hroot, hthreshold⟩
    obtain ⟨input, root, threshold⟩ := config
    obtain rfl := hover.input.unique hapart hinput
    obtain rfl := hover.root.unique hapart hroot
    obtain rfl := hover.threshold.unique hapart hthreshold
    rfl
  · rintro rfl
    exact hover

theorem layered_nil : Layered start {} [] config ↔ start = config := by
  obtain ⟨input, root, threshold⟩ := config
  obtain ⟨startInput, startRoot, startThreshold⟩ := start
  simp [layered_iff, setting_nil]

theorem layered_cons {entry : String × Toml.Value} (hentry : ∀ value, (entry.1, value) ∉ entries) :
    Layered start {} (entry :: entries) config ↔
      ∃ next, Layered start {} [entry] next ∧ Layered next {} entries config := by
  simp only [layered_iff, setting_cons hentry]
  constructor
  · rintro ⟨⟨input, hinput⟩, ⟨root, hroot⟩, threshold, hthreshold⟩
    exact ⟨⟨input, root, threshold⟩, ⟨hinput.1, hroot.1, hthreshold.1⟩, hinput.2, hroot.2,
      hthreshold.2⟩
  · rintro ⟨next, hfirst, hlater⟩
    exact ⟨⟨_, hfirst.1, hlater.1⟩, ⟨_, hfirst.2.1, hlater.2.1⟩, _, hfirst.2.2, hlater.2.2⟩

/-! ## Documents -/

theorem withEntry_eq_ok_iff {entry : String × Toml.Value} :
    withEntry start entry = .ok next ↔ entry.1 ∈ keys ∧ Layered start {} [entry] next := by
  obtain ⟨name, value⟩ := entry
  obtain ⟨input, root, threshold⟩ := next
  simp only [layered_iff, setting_singleton, keys]
  -- a key that is none of the three fits on neither side
  by_cases hinput : name = "input"
  · subst hinput
    cases value <;> simp [withEntry, Toml.Value.text?]
  by_cases hroot : name = "package_prefix"
  · subst hroot
    cases value <;> simp [withEntry, Toml.Value.text?]
  by_cases hthreshold : name = "threshold"
  · subst hthreshold
    cases value <;> simp [withEntry, Toml.Value.number?]
  simp [withEntry, hinput, hroot, hthreshold]

theorem foldlM_withEntry_eq_ok_iff (hapart : entries.KeysApart) :
    entries.foldlM withEntry start = .ok config ↔
      (∀ entry ∈ entries, entry.1 ∈ keys) ∧ Layered start {} entries config := by
  -- what one entry leaves is what the later ones start from
  induction entries generalizing start with
  | nil =>
      rw [layered_nil]
      simp [pure, Except.pure]
  | cons entry rest ih =>
      obtain ⟨hentry, hrest⟩ := Entries.keysApart_cons.mp hapart
      rw [List.foldlM_cons, bind_eq_ok_iff, layered_cons hentry, List.forall_mem_cons]
      simp only [withEntry_eq_ok_iff, ih hrest]
      constructor
      · rintro ⟨next, ⟨hkey, hfirst⟩, hkeys, hlater⟩
        exact ⟨⟨hkey, hkeys⟩, next, hfirst, hlater⟩
      · rintro ⟨⟨hkey, hkeys⟩, next, hfirst, hlater⟩
        exact ⟨next, ⟨hkey, hfirst⟩, hkeys, hlater⟩

theorem ofEntries_eq_ok_iff (hapart : entries.KeysApart) :
    ofEntries entries = .ok config ↔
      (∀ entry ∈ entries, entry.1 ∈ keys) ∧ Layered {} {} entries config :=
  foldlM_withEntry_eq_ok_iff hapart

theorem ofText_eq_ok_iff {text : String} :
    ofText text = .ok config ↔
      ∃ entries, Toml.read? text = some entries ∧ (∀ entry ∈ entries, entry.1 ∈ keys) ∧
        Layered {} {} entries config := by
  rw [ofText]
  cases hread : Toml.read? text with
  | none => simp
  | some entries =>
      simp only [mapError_eq_ok_iff, ofEntries_eq_ok_iff (Toml.keysApart_of_read? hread)]
      simp

/-- The table of the document at a path. -/
def TableAt (directory : Directory) (path : String) (entries : Entries) : Prop :=
  ∃ bytes text, directory.find path = .ok (.file bytes) ∧ Profile.decode? bytes = some text ∧
    Toml.read? text = some entries

/-- The table in which a run looks for settings, if a path is given or if none is.  It is empty
if there is nothing at the usual place. -/
inductive Document (directory : Directory) : Option String → Entries → Prop
  | given {path : String} {entries : Entries} (htable : TableAt directory path entries) :
    Document directory (some path) entries
  | usual {entries : Entries} (htable : TableAt directory defaultPath entries) :
    Document directory none entries
  | missing (hmissing : ∀ entry, directory.find defaultPath ≠ .ok entry) :
    Document directory none []

variable {directory : Directory} {path : Option String}

theorem TableAt.keysApart {path : String} (htable : TableAt directory path entries) :
    entries.KeysApart := by
  obtain ⟨_, _, _, _, hread⟩ := htable
  exact Toml.keysApart_of_read? hread

theorem Document.keysApart (hdocument : Document directory path entries) : entries.KeysApart := by
  cases hdocument with
  | given htable => exact htable.keysApart
  | usual htable => exact htable.keysApart
  | missing _ => exact Entries.keysApart_nil

theorem TableAt.unique {path : String} {other : Entries} (htable : TableAt directory path entries)
    (hother : TableAt directory path other) : entries = other := by
  obtain ⟨bytes, text, hfind, htext, hread⟩ := htable
  obtain ⟨_, _, hfind', htext', hread'⟩ := hother
  obtain rfl := FileEntry.file.inj (Except.ok.inj (hfind.symm.trans hfind'))
  obtain rfl := Option.some.inj (htext.symm.trans htext')
  exact Option.some.inj (hread.symm.trans hread')

theorem Document.unique {other : Entries} (hdocument : Document directory path entries)
    (hother : Document directory path other) : entries = other := by
  cases hdocument with
  | given htable =>
      cases hother with
      | given htable' => exact htable.unique htable'
  | usual htable =>
      cases hother with
      | usual htable' => exact htable.unique htable'
      | missing hmissing =>
          obtain ⟨_, _, hfind, _⟩ := htable
          exact absurd hfind (hmissing _)
  | missing hmissing =>
      cases hother with
      | usual htable =>
          obtain ⟨_, _, hfind, _⟩ := htable
          exact absurd hfind (hmissing _)
      | missing _ => rfl

theorem readAt_iff_alone {path : String} :
    ReadAt directory path config ↔
      ∃ entries, TableAt directory path entries ∧ Alone entries config := by
  constructor
  · rintro ⟨⟨bytes, text, hfind, htext, hconfig⟩, hvalid⟩
    obtain ⟨entries, hread, hkeys, hlayered⟩ := ofText_eq_ok_iff.mp hconfig
    exact ⟨entries, ⟨bytes, text, hfind, htext, hread⟩, hkeys, hlayered, hvalid⟩
  · rintro ⟨entries, ⟨bytes, text, hfind, htext, hread⟩, hkeys, hlayered, hvalid⟩
    have hconfig := ofText_eq_ok_iff.mpr ⟨entries, hread, hkeys, hlayered⟩
    exact ⟨⟨bytes, text, hfind, htext, hconfig⟩, hvalid⟩

theorem valid_default : Valid {} where
  root := ⟨'g', by decide +kernel, by decide⟩
  threshold := by decide +kernel

theorem loaded_iff_alone :
    Loaded directory path config ↔
      ∃ entries, Document directory path entries ∧ Alone entries config := by
  constructor
  · intro hloaded
    cases hloaded with
    | given hread =>
        obtain ⟨entries, htable, halone⟩ := readAt_iff_alone.mp hread
        exact ⟨entries, .given htable, halone⟩
    | usual hread =>
        obtain ⟨entries, htable, halone⟩ := readAt_iff_alone.mp hread
        exact ⟨entries, .usual htable, halone⟩
    | missing hmissing =>
        -- the defaults are those of an empty table
        have hdefault : Alone [] {} :=
          ⟨fun _ hmem => absurd hmem List.not_mem_nil, layered_nil.mpr rfl, valid_default⟩
        exact ⟨[], .missing hmissing, hdefault⟩
  · rintro ⟨entries, hdocument, halone⟩
    cases hdocument with
    | given htable => exact .given (readAt_iff_alone.mpr ⟨entries, htable, halone⟩)
    | usual htable => exact .usual (readAt_iff_alone.mpr ⟨entries, htable, halone⟩)
    | missing hmissing =>
        obtain rfl := layered_nil.mp halone.layered
        exact .missing hmissing

/-- The settings of a run are layered and make sense, and so do those of its document alone. -/
theorem choose_eq_ok_iff_layered :
    (choose directory path overrides).2 = .ok config ↔
      ∃ entries own, Document directory path entries ∧ Alone entries own ∧
        Layered {} overrides entries config ∧ config.Valid := by
  rw [choose_eq_ok_iff]
  constructor
  · rintro ⟨own, hloaded, hvalid, rfl⟩
    obtain ⟨entries, hdocument, halone⟩ := loaded_iff_alone.mp hloaded
    have hlayered : Layered {} overrides entries (overrides.over own) :=
      (halone.layered.over_iff hdocument.keysApart).mpr rfl
    exact ⟨entries, own, hdocument, halone, hlayered, hvalid⟩
  · rintro ⟨entries, own, hdocument, halone, hlayered, hvalid⟩
    obtain rfl := (halone.layered.over_iff hdocument.keysApart).mp hlayered
    exact ⟨own, loaded_iff_alone.mpr ⟨entries, hdocument, halone⟩, hvalid, rfl⟩

example :
    let text := "package_prefix = \"example.com/app\"\nthreshold = 60\n"
    let directory : Directory := .ofAnswers [("covpkg.toml", .ok (.file text.toUTF8.toList))]
    (choose directory none { threshold := some 50 }).2.toOption =
      some ⟨"coverage.out", "example.com/app", 50⟩ := by
  decide +kernel

/-! ## The order of the keys -/

theorem Setting.perm {α : Type} {read : Toml.Value → Option α} {key : String} {usual a : α}
    {given : Option α} {other : Entries} (hperm : entries.Perm other)
    (hsetting : Setting read key usual entries given a) : Setting read key usual other given a := by
  cases hsetting with
  | given => exact .given a
  | written hmem hread => exact .written (hperm.mem_iff.mp hmem) hread
  | absent habsent => exact .absent fun value hmem => habsent value (hperm.mem_iff.mpr hmem)

theorem Layered.perm {other : Entries} (hperm : entries.Perm other)
    (hlayered : Layered start overrides entries config) : Layered start overrides other config :=
  ⟨hlayered.input.perm hperm, hlayered.root.perm hperm, hlayered.threshold.perm hperm⟩

theorem Alone.perm {other : Entries} (hperm : entries.Perm other) (halone : Alone entries own) :
    Alone other own where
  mem_keys entry hmem := halone.mem_keys entry (hperm.mem_iff.mpr hmem)
  layered := halone.layered.perm hperm
  valid := halone.valid

theorem choose_eq_ok_of_perm {other : Directory} {entries' : Entries}
    (hdocument : Document directory path entries) (hother : Document other path entries')
    (hperm : entries.Perm entries') (hchoose : (choose directory path overrides).2 = .ok config) :
    (choose other path overrides).2 = .ok config := by
  obtain ⟨found, own, hfound, halone, hlayered, hvalid⟩ := choose_eq_ok_iff_layered.mp hchoose
  obtain rfl := hdocument.unique hfound
  exact choose_eq_ok_iff_layered.mpr
    ⟨entries', own, hother, halone.perm hperm, hlayered.perm hperm, hvalid⟩

end Config

/-! ## Runs -/

namespace Report

open Config

/-- **Layers.**  A report is built from the layered settings, and only if they make sense and
those of the document alone do too.  Then the root is more than slashes and the threshold is a
percentage.  A document that is there and cannot be read, one with another key, and one with
settings that make no sense by themselves fail the run whatever is put over them, and the order of
the keys changes nothing. -/
theorem run_layered (directory : Directory) (path : Option String) (overrides : Overrides) :
    (∀ config, (choose directory path overrides).2 = .ok config ↔
      ∃ entries own, Document directory path entries ∧ Alone entries own ∧
        Layered {} overrides entries config ∧ config.Valid) ∧
    (∀ config, (choose directory path overrides).2 = .ok config →
      (run directory path overrides).2 = (build directory config).2 ∧
        (PackageRoot.ofPath config.root).path ≠ "" ∧ config.threshold.isNaN = false ∧
        0 ≤ config.threshold ∧ config.threshold ≤ 100) ∧
    (∀ failure, (choose directory path overrides).2 = .error failure →
      (run directory path overrides).2 = .error failure) ∧
    (∀ entry, directory.find (path.getD defaultPath) = .ok entry →
      (∀ bytes, entry ≠ .file bytes) → ∃ fault, (run directory path overrides).2 =
        .error (.unreadableSettings (path.getD defaultPath) fault)) ∧
    (∀ entries, Document directory path entries →
      (∃ entry ∈ entries, entry.1 ∉ keys) ∨ (∀ own, Layered {} {} entries own → ¬ own.Valid) →
      ∃ failure, (run directory path overrides).2 = .error failure) ∧
    ∀ (other : Directory) (entries entries' : Toml.Entries), Document directory path entries →
      Document other path entries' → entries.Perm entries' → ∀ config,
        (choose directory path overrides).2 = .ok config ↔
          (choose other path overrides).2 = .ok config := by
  refine ⟨fun config => choose_eq_ok_iff_layered, ?_, fun failure => run_of_choose_eq_error, ?_, ?_,
    ?_⟩
  · intro config hchoose
    obtain ⟨_, _, _, _, _, hvalid⟩ := choose_eq_ok_iff_layered.mp hchoose
    have hroot : (PackageRoot.ofPath config.root).path ≠ "" := by
      intro hempty
      have hfilled := isEmpty_ofPath_eq_false_iff.mpr hvalid.root
      rw [hempty] at hfilled
      cases hfilled
    exact ⟨run_of_choose_eq_ok hchoose, hroot, hvalid.threshold.1.2.1, hvalid.threshold⟩
  · intro entry hfind hentry
    obtain ⟨fault, hchoose⟩ := choose_of_not_file hfind hentry
    exact ⟨fault, run_of_choose_eq_error hchoose⟩
  -- a document has one table only, so the unfit one is the one that was chosen
  · intro entries hdocument hunfit
    cases hchoose : (choose directory path overrides).2 with
    | error failure => exact ⟨failure, run_of_choose_eq_error hchoose⟩
    | ok config =>
        obtain ⟨found, own, hfound, halone, -, -⟩ := choose_eq_ok_iff_layered.mp hchoose
        obtain rfl := hdocument.unique hfound
        rcases hunfit with ⟨entry, hmem, hkey⟩ | hinvalid
        · exact absurd (halone.mem_keys entry hmem) hkey
        · exact absurd halone.valid (hinvalid own halone.layered)
  · intro other entries entries' hdocument hother hperm config
    exact ⟨choose_eq_ok_of_perm hdocument hother hperm,
      choose_eq_ok_of_perm hother hdocument hperm.symm⟩

-- the threshold of the document is no percentage, and the one that is given comes too late
example :
    let text := "threshold = 150\n"
    let directory : Directory := .ofAnswers [("covpkg.toml", .ok (.file text.toUTF8.toList))]
    (run directory none { threshold := some 50 }).2.isOk = false := by
  decide +kernel

end Report

end PackageCoverage
