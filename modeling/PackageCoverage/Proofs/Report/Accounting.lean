import Mathlib.Data.List.Dedup
import Mathlib.Data.List.Forall2
import PackageCoverage.CommandLine.Outcome
import PackageCoverage.Proofs.Package.Merging

/-!
# Lines and events

A run tells about every line of its profile that has no record, unless the line is a header or has
nothing but blanks, and at the end it tells how many records there were.  So no line goes
unaccounted for.

* **One line.**  A line is a header or blank just when its characters say so, and of the others each
  has either a record or a fault (`Line.read_cases`).
* **All lines.**  The numbers of lines of the four kinds therefore add up to that of all lines
  (`Profile.Reading.length_texts`), and the faults are in the order of their lines
  (`Profile.Reading.forall₂_faults`).
* **Records.**  A record is in a package or counted as outside
  (`Coverage.length_eq_inside_add`), and a coverage has as many entries as there are keys
  (`Coverage.Reflects.size_eq`).
* **Events.**  The messages of events tell them apart, so all of this can be read off what is told
  (`Report.accounts_readingEvents`).
-/

namespace PackageCoverage

namespace Line

variable {text : String}

/-! ## Kinds of lines -/

/-- Whether a line starts with the mark of a header. -/
def isHeader (text : String) : Bool := headerMark.isPrefixOf text.toList

/-- Whether there is nothing but blanks in a line. -/
def isBlank (text : String) : Bool := text.toList.all Text.isBlank

theorem isBlank_eq_false_of_isHeader (hheader : isHeader text = true) : isBlank text = false := by
  have hmark : 'm' ∈ text.toList :=
    (List.isPrefixOf_iff_prefix.mp hheader).subset (by decide : 'm' ∈ headerMark)
  rw [isBlank, List.all_eq_false]
  exact ⟨'m', hmark, by decide⟩

theorem fields_eq_nil_iff_isBlank : Text.fields text.toList = [] ↔ isBlank text = true := by
  rw [Text.fields_eq_nil_iff, isBlank, List.all_eq_true]

/-- A line is a header or blank just when its characters say so, and otherwise it has a record or
a fault. -/
theorem read_cases (text : String) :
    (isHeader text = true ∧ isBlank text = false ∧ read text = .header) ∨
      (isHeader text = false ∧ isBlank text = true ∧ read text = .blank) ∨
      (isHeader text = false ∧ isBlank text = false ∧
        ((∃ record, read text = .record record) ∨ ∃ fault, read text = .malformed fault)) := by
  unfold read
  cases hheader : isHeader text with
  | true =>
      have hmark : headerMark.isPrefixOf text.toList = true := hheader
      exact .inl ⟨rfl, isBlank_eq_false_of_isHeader hheader, if_pos hmark⟩
  | false =>
      have hmark : headerMark.isPrefixOf text.toList = false := hheader
      rw [hmark]
      refine .inr ?_
      cases hblank : isBlank text with
      | true =>
          rw [fields_eq_nil_iff_isBlank.mpr hblank]
          exact .inl ⟨rfl, rfl, rfl⟩
      | false =>
          refine .inr ⟨rfl, rfl, ?_⟩
          -- a line that is not blank has a first word
          have hfields : Text.fields text.toList ≠ [] := by
            rw [Ne, fields_eq_nil_iff_isBlank, hblank]
            exact Bool.false_ne_true
          simp only [Bool.false_eq_true, if_false]
          split
          case h_1 hnil => exact absurd hnil hfields
          case h_2 =>
              unfold ofFields
              split
              · exact .inr ⟨_, rfl⟩
              · exact .inr ⟨_, rfl⟩
              · exact .inl ⟨_, rfl⟩
          case h_3 => exact .inr ⟨_, rfl⟩

/-- Whether a line is neither a header nor blank and has no record. -/
def isLeft (text : String) : Bool :=
  !isHeader text && !isBlank text && (read text).record?.isNone

end Line

/-! ## All lines -/

namespace Profile

variable {bytes : List UInt8}

/-- The lines of a complete reading are all lines of the profile. -/
theorem map_some_texts (hcomplete : (read bytes).complete = true) :
    (read bytes).texts.map some = (lines bytes).map decode? := by
  unfold read at hcomplete ⊢
  dsimp only at hcomplete ⊢
  rw [List.all_eq_true] at hcomplete
  rw [List.takeWhile_eq_self_iff.mpr hcomplete]
  generalize (lines bytes).map decode? = texts at hcomplete
  induction texts with
  | nil => rfl
  | cons text later ih =>
      obtain ⟨decoded, rfl⟩ := Option.isSome_iff_exists.mp (hcomplete text List.mem_cons_self)
      have hlater := ih fun other hother => hcomplete other (List.mem_cons_of_mem _ hother)
      exact congrArg (some decoded :: ·) hlater

/-- Every line is of one kind. -/
theorem Reading.length_texts (reading : Reading) :
    reading.texts.length = reading.records.length + reading.texts.countP Line.isHeader +
      reading.texts.countP Line.isBlank + reading.faults.length := by
  obtain ⟨texts, complete⟩ := reading
  unfold Reading.records Reading.faults
  induction texts with
  | nil => rfl
  | cons text later ih =>
      rw [List.length_cons, ih]
      -- each line adds one to exactly one of the four numbers
      rcases Line.read_cases text with ⟨hheader, hblank, hread⟩ | ⟨hheader, hblank, hread⟩ |
        ⟨hheader, hblank, ⟨record, hread⟩ | ⟨fault, hread⟩⟩
      all_goals
        simp [hheader, hblank, hread, Line.record?, Line.fault?]
        omega

/-- The lines that are left have a fault each, in the order of the lines. -/
theorem Reading.forall₂_faults (reading : Reading) :
    List.Forall₂ (fun text told => Line.read text = .malformed told.1 ∧ told.2 = text)
      (reading.texts.filter Line.isLeft) reading.faults := by
  obtain ⟨texts, complete⟩ := reading
  unfold Reading.faults
  induction texts with
  | nil => exact .nil
  | cons text later ih =>
      -- a line stays on the left just if it has a fault on the right
      rcases Line.read_cases text with ⟨hheader, hblank, hread⟩ | ⟨hheader, hblank, hread⟩ |
        ⟨hheader, hblank, ⟨record, hread⟩ | ⟨fault, hread⟩⟩
      · simpa [Line.isLeft, hheader, hread, Line.fault?] using ih
      · simpa [Line.isLeft, hblank, hread, Line.fault?] using ih
      · simpa [Line.isLeft, hread, Line.record?, Line.fault?] using ih
      · simpa [Line.isLeft, hheader, hblank, hread, Line.record?, Line.fault?] using ih

end Profile

/-! ## Records -/

theorem PackageTable.mem_keys_iff {table : PackageTable} {key : String} :
    key ∈ table.entries.map Prod.fst ↔ (table.get? key).isSome := by
  rw [List.mem_map, Option.isSome_iff_exists]
  constructor
  · rintro ⟨entry, hentry, rfl⟩
    exact ⟨entry.2, mem_entries_iff.mp hentry⟩
  · rintro ⟨tally, hget⟩
    exact ⟨(key, tally), mem_entries_iff.mpr hget, rfl⟩

theorem PackageRoot.isSome_tally?_iff {root : PackageRoot} {key : String} {records : List Record} :
    (root.tally? key records).isSome ↔ ∃ record ∈ records, root.key? record.path = some key := by
  have hexists : (∃ record ∈ records, root.key? record.path = some key) ↔
      root.recordsIn key records ≠ [] := by
    simp [recordsIn_eq_nil_iff]
  rw [hexists, tally?]
  split
  case isTrue hnil => simp [hnil]
  case isFalse hne => simp [hne]

namespace Coverage

variable {coverage : Coverage} {root : PackageRoot} {handed counted : List Record}

theorem length_eq_inside_add (root : PackageRoot) (records : List Record) :
    records.length = (inside root records).length +
      (records.filter fun record => root.key? record.path = none).length := by
  rw [List.length_eq_length_filter_add fun record => (root.key? record.path).isSome, inside]
  congr 2
  refine List.filter_congr fun record _ => ?_
  cases root.key? record.path <;> rfl

/-- There are as many entries as there are keys. -/
theorem Reflects.size_eq (reflects : coverage.Reflects root handed counted) :
    coverage.packages.size =
      (handed.filterMap fun record => root.key? record.path).dedup.length := by
  have hmem : ∀ key, key ∈ coverage.packages.entries.map Prod.fst ↔
      key ∈ (handed.filterMap fun record => root.key? record.path).dedup := by
    intro key
    rw [PackageTable.mem_keys_iff, reflects.get?_eq, PackageRoot.isSome_tally?_iff, List.mem_dedup,
      List.mem_filterMap]
  have hperm := (List.perm_ext_iff_of_nodup coverage.packages.nodup_keys
    (List.nodup_dedup _)).mpr hmem
  rw [PackageTable.size, ← hperm.length_eq, List.length_map]

end Coverage

/-! ## Events -/

namespace Log

/-- Whether an event tells that a line was skipped. -/
def Event.isSkip (event : Event) : Bool :=
  "skipping line ".toList.isPrefixOf event.message.toList

/-- Whether an event tells that records were outside of all packages. -/
def Event.isIgnored (event : Event) : Bool :=
  event.message = "records outside the package prefix were ignored"

namespace Event

@[simp] theorem isSkip_lineSkipped (fault : Line.Fault) (text : String) :
    (lineSkipped fault text).isSkip = true := by
  have hmessage : "skipping line ".toList <+: ("skipping line with " ++ fault.message).toList := by
    rw [String.toList_append]
    exact List.IsPrefix.trans (by decide) (List.prefix_append _ _)
  exact List.isPrefixOf_iff_prefix.mpr hmessage

@[simp] theorem isSkip_recordsIgnored (outside : Nat) :
    (recordsIgnored outside).isSkip = false := by
  show "skipping line ".toList.isPrefixOf
    "records outside the package prefix were ignored".toList = false
  decide

@[simp] theorem isSkip_tallied (packages records outside : Nat) :
    (tallied packages records outside).isSkip = false := by
  show "skipping line ".toList.isPrefixOf "aggregated coverage".toList = false
  decide

@[simp] theorem isIgnored_lineSkipped (fault : Line.Fault) (text : String) :
    (lineSkipped fault text).isIgnored = false := by
  show decide ("skipping line with " ++ fault.message = _) = false
  cases fault <;> decide

@[simp] theorem isIgnored_recordsIgnored (outside : Nat) :
    (recordsIgnored outside).isIgnored = true :=
  decide_eq_true rfl

@[simp] theorem isIgnored_tallied (packages records outside : Nat) :
    (tallied packages records outside).isIgnored = false := by
  show decide ("aggregated coverage" = _) = false
  decide

end Event

theorem Filter.tells_of_verbose (event : Event) : (choose none true).tells event = true := by
  cases event <;>
    simp [choose, ofLevel, tells, deciding?, Directive.caresAbout, Event.level, Level.verbosity]

end Log

namespace Report

open Profile

/-- What events tell about the lines of a profile, all of which are text.  Their records are those
in packages and those outside, and each other line is a header, or blank, or skipped with an event
of its own.  These events come first and in the order of the lines; one event behind them tells of
records outside, if there are any, and the last one tells all numbers. -/
structure Accounts (root : PackageRoot) (texts : List String) (events : List Log.Event)
    (records : List Record) (packages outside : Nat) : Prop where
  records_eq : records = texts.filterMap fun text => (Line.read text).record?
  lines_eq : texts.length = records.length + texts.countP Line.isHeader +
    texts.countP Line.isBlank + (events.filter Log.Event.isSkip).length
  skipped : List.Forall₂ (fun text event =>
    ∃ fault, Line.read text = .malformed fault ∧ event = .lineSkipped fault text)
    (texts.filter Line.isLeft) (events.filter Log.Event.isSkip)
  ignored : events.filter Log.Event.isIgnored =
    if 0 < outside then [.recordsIgnored outside] else []
  events_eq : events = events.filter Log.Event.isSkip ++ events.filter Log.Event.isIgnored ++
    [.tallied packages records.length outside]
  inside_add : records.length = (Coverage.inside root records).length + outside
  packages_eq : packages = (records.filterMap fun record => root.key? record.path).dedup.length

theorem accounts_readingEvents (root : PackageRoot) {reading : Reading}
    (hcomplete : reading.complete = true) :
    let coverage := (Coverage.empty root).countReading reading
    Accounts root reading.texts (readingEvents root reading) reading.records
      coverage.packages.size coverage.outside := by
  intro coverage
  have reflects : coverage.Reflects root reading.records reading.records :=
    (Coverage.reflects_empty root).countAll reading.records
  -- events come in three parts, and their messages tell the parts apart
  let skipped := reading.faults.map fun fault => Log.Event.lineSkipped fault.1 fault.2
  let ignored : List Log.Event :=
    if 0 < coverage.outside then [.recordsIgnored coverage.outside] else []
  let numbers := Log.Event.tallied coverage.packages.size reading.records.length coverage.outside
  have hevents : readingEvents root reading = skipped ++ ignored ++ [numbers] := by
    have hignored : ignored =
        if coverage.outside = 0 then [] else [.recordsIgnored coverage.outside] := by
      unfold ignored
      split <;> split <;> first | rfl | omega
    rw [hignored, readingEvents, if_pos hcomplete]
  have hskipped : (readingEvents root reading).filter Log.Event.isSkip = skipped := by
    have hskips : ∀ event ∈ skipped, event.isSkip = true := by
      intro event hevent
      obtain ⟨fault, -, rfl⟩ := List.mem_map.mp hevent
      exact Log.Event.isSkip_lineSkipped fault.1 fault.2
    have hnone : ∀ event ∈ ignored, ¬ event.isSkip = true := by simp [ignored]
    rw [hevents, List.filter_append, List.filter_append, List.filter_eq_self.mpr hskips,
      List.filter_eq_nil_iff.mpr hnone]
    simp [numbers]
  have hignored : (readingEvents root reading).filter Log.Event.isIgnored = ignored := by
    have hnone : ∀ event ∈ skipped, ¬ event.isIgnored = true := by
      intro event hevent
      obtain ⟨fault, -, rfl⟩ := List.mem_map.mp hevent
      simp
    have hignores : ∀ event ∈ ignored, event.isIgnored = true := by simp [ignored]
    rw [hevents, List.filter_append, List.filter_append, List.filter_eq_self.mpr hignores,
      List.filter_eq_nil_iff.mpr hnone]
    simp [numbers]
  constructor
  · rfl
  · rw [hskipped, List.length_map]
    exact reading.length_texts
  · rw [hskipped, List.forall₂_map_right_iff]
    refine reading.forall₂_faults.imp ?_
    rintro text ⟨fault, told⟩ ⟨hread, rfl⟩
    exact ⟨fault, hread, rfl⟩
  · exact hignored
  · rw [hskipped, hignored]
    exact hevents
  · rw [reflects.outside_eq]
    exact Coverage.length_eq_inside_add root reading.records
  · exact reflects.size_eq

/-- **Every line is accounted for.**  The report on a profile that is text counts the records of
all its lines, and what is told on the way accounts for every line: those with a record, those that
are headers or blank, and those with an event that tells why they were skipped.  The numbers in the
last event are those of the coverage that the report is made of.  None of this is held back where
details are asked for. -/
theorem accounts_build {directory : Directory} {config : Config} {bytes : List UInt8}
    (hfile : directory.find config.input = .ok (.file bytes)) (htext : (decode? bytes).isSome) :
    let root := PackageRoot.ofPath config.root
    let coverage := (Coverage.empty root).countAll (read bytes).records
    (read bytes).texts.map some = (Profile.lines bytes).map decode? ∧
      (build directory config).2 = .ok (ofCoverage coverage config.threshold) ∧
      Accounts root (read bytes).texts (build directory config).1 (read bytes).records
        coverage.packages.size coverage.outside ∧
      ∀ event ∈ (build directory config).1, (Log.Filter.choose none true).tells event = true := by
  intro root coverage
  have hcomplete : (read bytes).complete = true := by rw [complete_read, htext]
  have hbuild : build directory config =
      (readingEvents root (read bytes), .ok (ofCoverage coverage config.threshold)) := by
    unfold build
    rw [hfile]
    dsimp only
    rw [if_pos hcomplete]
    rfl
  rw [hbuild]
  refine ⟨map_some_texts hcomplete, rfl, accounts_readingEvents root hcomplete, ?_⟩
  intro event _
  exact Log.Filter.tells_of_verbose event

/-- Lines of all kinds, two of them skipped for different faults and one outside of all packages. -/
theorem accounts_build_all_kinds :
    let bytes := encode ("mode: set\n\u2003\t\npkg/a/x.go:1 2 1\r\npkg/a 7\n" ++
      "\nlib/y.go:1 3 1\npkg/b 4 -1")
    let coverage := (Coverage.empty (.ofPath "pkg")).countAll (read bytes).records
    let events := (build ⟨fun _ => .ok (.file bytes)⟩ ⟨"coverage.out", "pkg", 75⟩).1
    Accounts (.ofPath "pkg") (read bytes).texts events (read bytes).records coverage.packages.size
        coverage.outside ∧
      events.map Log.Event.message = ["skipping line with too few fields",
        "skipping line with invalid execution count",
        "records outside the package prefix were ignored", "aggregated coverage"] := by
  intro bytes coverage events
  let directory : Directory := ⟨fun _ => .ok (.file bytes)⟩
  let config : Config := ⟨"coverage.out", "pkg", 75⟩
  have hfile : directory.find config.input = .ok (.file bytes) := rfl
  have haccounts := accounts_build hfile (by decide +kernel)
  exact ⟨haccounts.2.2.1, by decide +kernel⟩

end Report

end PackageCoverage
