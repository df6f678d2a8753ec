import Mathlib.Data.List.Basic
import Mathlib.Data.List.TakeWhile
import PackageCoverage.Profile.Writing
import PackageCoverage.Proofs.Profile.Items

/-!
# Reading what was written

A profile that is written from records is read back as those records.

* **Counts.**  Decimal digits are read as the number they were written for
  (`Count.read?_digits`), up to the limit.
* **Lines.**  The path and the location make one field in front of the two counts, and the path
  ends at the first colon (`Record.read_line`).  A path that is the word `mode` would make its
  line a header, and a blank or a colon in a path would cut it short; these are the paths that
  `Record.IsWritable` leaves out.
* **Texts.**  Whichever ends the lines have, the records of the text are those of its lines
  (`Profile.textRecords_of_written`).
-/

namespace PackageCoverage

/-! ## Counts -/

namespace Count

theorem isDigit_of_mem_digits {count : Count} {c : Char} (hc : c ∈ count.digits) :
    c.isDigit = true :=
  Nat.isDigit_of_mem_toDigits (by decide) (by decide) hc

theorem read?_digits (count : Count) : read? count.digits = some count := by
  have hne : count.digits ≠ [] := Nat.toDigits_ne_nil
  have hall : count.digits.all Char.isDigit = true :=
    List.all_eq_true.mpr fun c hc => isDigit_of_mem_digits hc
  have hvalue : Nat.ofDigitChars 10 count.digits 0 = count.value := Nat.ofDigitChars_ten_toDigits
  have hunsigned : ∀ rest, count.digits ≠ '+' :: rest := by
    intro rest heq
    have hplus : '+' ∈ count.digits := heq ▸ List.mem_cons_self
    exact absurd (isDigit_of_mem_digits hplus) (by decide)
  unfold read?
  split
  · exact absurd ‹_› (hunsigned _)
  · simp [hne, hall, hvalue, count.value_le]

end Count

/-! ## Lines -/

/-- What a path has to be like for its line to be read back. -/
structure Record.IsWritable (record : Record) : Prop where
  unblank : ∀ c ∈ record.path.toList, Text.isBlank c = false
  colon_not_mem : ':' ∉ record.path.toList
  ne_mode : record.path ≠ "mode"

namespace Record

variable {record : Record} {location : String}

theorem toList_line (record : Record) (location : String) :
    (record.line location).toList = (record.path.toList ++ ':' :: location.toList) ++
      ' ' :: (record.statements.digits ++ ' ' :: record.executions.digits) := by
  simp [line, toString]

private theorem takeWhile_path (hcolon : ':' ∉ record.path.toList) (later : List Char) :
    (record.path.toList ++ ':' :: later).takeWhile (· ≠ ':') = record.path.toList := by
  have hpath : ∀ c ∈ record.path.toList, decide (c ≠ ':') = true := by
    intro c hc
    rw [decide_eq_true_eq]
    rintro rfl
    exact hcolon hc
  rw [List.takeWhile_append_of_pos hpath]
  simp

theorem not_headerMark_prefix_line (hwritable : record.IsWritable) :
    ¬ Line.headerMark <+: (record.line location).toList := by
  rintro ⟨later, hlater⟩
  rw [toList_line, List.append_assoc, List.cons_append] at hlater
  -- both sides have a colon, and what is in front of the first one is the same
  have hfront := congrArg (List.takeWhile (· ≠ ':')) hlater
  rw [takeWhile_path hwritable.colon_not_mem] at hfront
  have hmode : record.path.toList = "mode".toList := hfront.symm
  exact hwritable.ne_mode (String.toList_inj.mp hmode)

private theorem isBlank_location (hwritable : record.IsWritable)
    (hlocation : ∀ c ∈ location.toList, Text.isBlank c = false) :
    ∀ c ∈ record.path.toList ++ ':' :: location.toList, Text.isBlank c = false := by
  intro c hc
  rcases List.mem_append.mp hc with hpath | hc
  · exact hwritable.unblank c hpath
  · rcases List.mem_cons.mp hc with rfl | hc
    · decide
    · exact hlocation c hc

theorem fields_line (hwritable : record.IsWritable)
    (hlocation : ∀ c ∈ location.toList, Text.isBlank c = false) :
    Text.fields (record.line location).toList =
      [record.path.toList ++ ':' :: location.toList, record.statements.digits,
        record.executions.digits] := by
  have hspace : Text.isBlank ' ' = true := by decide
  have hdigits : ∀ (count : Count) (later : List Char), (∀ c ∈ later.head?, Text.isBlank c = true) →
      Text.fields (count.digits ++ later) = count.digits :: Text.fields later := by
    intro count later hlater
    exact Text.fields_append (fun c hc => Text.isBlank_of_isDigit (Count.isDigit_of_mem_digits hc))
      Nat.toDigits_ne_nil hlater
  have hexecutions := hdigits record.executions [] (by simp)
  rw [List.append_nil, Text.fields_nil] at hexecutions
  rw [toList_line, Text.fields_append (isBlank_location hwritable hlocation) (by simp)
    (by simp [hspace]), Text.fields_blank_cons hspace, hdigits _ _ (by simp [hspace]),
    Text.fields_blank_cons hspace, hexecutions]

theorem read_line (hwritable : record.IsWritable)
    (hlocation : ∀ c ∈ location.toList, Text.isBlank c = false) :
    Line.read (record.line location) = .record record := by
  have hheader : Line.headerMark.isPrefixOf (record.line location).toList = false := by
    rw [Bool.eq_false_iff, Ne, List.isPrefixOf_iff_prefix]
    exact not_headerMark_prefix_line hwritable
  have hpath : Line.pathOf (record.path.toList ++ ':' :: location.toList) = record.path := by
    rw [Line.pathOf, takeWhile_path hwritable.colon_not_mem, String.ofList_toList]
  rw [Line.read, hheader, fields_line hwritable hlocation]
  change Line.ofFields _ _ _ = _
  rw [Line.ofFields, Count.read?_digits, Count.read?_digits, hpath]

theorem lineFeed_not_mem_line (hwritable : record.IsWritable)
    (hlocation : ∀ c ∈ location.toList, Text.isBlank c = false) :
    '\n' ∉ (record.line location).toList := by
  have hblank : Text.isBlank '\n' = true := by decide
  have hdigits : ∀ count : Count, '\n' ∉ count.digits := by
    intro count hmem
    exact absurd (Count.isDigit_of_mem_digits hmem) (by decide)
  have hfront : '\n' ∉ record.path.toList ++ ':' :: location.toList := by
    intro hmem
    rw [isBlank_location hwritable hlocation _ hmem] at hblank
    exact Bool.false_ne_true hblank
  rw [toList_line]
  simp only [List.mem_append, List.mem_cons, not_or] at hfront ⊢
  exact ⟨hfront, by decide, hdigits _, by decide, hdigits _⟩

end Record

namespace Profile

/-! ## Texts -/

theorem decode?_encode (text : String) : decode? (encode text) = some text := by
  refine decode?_eq_some_iff.mpr (ByteArray.ext ?_)
  rw [List.data_toByteArray, encode, Array.toArray_toList]
  rfl

/-- The records of a text are those of its lines, with whichever ends they have. -/
theorem textRecords_of_written {lines : List String} {text : String}
    (hwritten : Written lines text) (hlines : ∀ line ∈ lines, '\n' ∉ line.toList) :
    textRecords text = lines.filterMap fun line => (Line.read line).record? := by
  induction hwritten with
  | empty => exact textRecords_of_not_mem (by simp)
  | unended line =>
      rw [textRecords_of_not_mem (hlines line List.mem_cons_self), List.filterMap_cons]
      cases (Line.read line).record? <;> rfl
  | @ended later text line lineEnd _ ih =>
      have hline : '\n' ∉ line.toList := hlines line List.mem_cons_self
      have hlater := ih fun other hother => hlines other (List.mem_cons_of_mem line hother)
      have hrecord : textRecords (line ++ lineEnd.text ++ text) =
          (Line.read line).record?.toList ++ textRecords text := by
        cases lineEnd with
        | feed =>
            rw [LineEnd.text, textRecords_append, textRecords_of_not_mem hline]
        | returnFeed =>
            -- the carriage return is left at the end of the piece, where it is of no account
            have hreturn : '\n' ∉ (line ++ "\r").toList := by simp [hline]
            have hpiece : line ++ LineEnd.text .returnFeed ++ text =
                line ++ "\r" ++ "\n" ++ text :=
              String.toList_inj.mp (by simp [LineEnd.text])
            rw [hpiece, textRecords_append, textRecords_of_not_mem hreturn,
              Line.read_append_return]
      rw [hrecord, hlater, List.filterMap_cons]
      cases (Line.read line).record? <;> rfl

end Profile

/-! ## Profiles -/

namespace Coverage

open Profile

/-- **Writing and reading a profile loses nothing.**  Let a header and the lines of records, at
any locations without blanks, be written with any ends.  Then the items of the profile are the
records, in order, and counting the profile comes to counting the list of them. -/
theorem countProfile_written {blocks : List (Record × String)} {header text : String}
    (hheader : Line.headerMark <+: header.toList) (hline : '\n' ∉ header.toList)
    (hrecords : ∀ block ∈ blocks, block.1.IsWritable)
    (hlocations : ∀ block ∈ blocks, ∀ c ∈ block.2.toList, Text.isBlank c = false)
    (hwritten : Written (header :: blocks.map fun block => block.1.line block.2) text) :
    items (encode text) = blocks.map (fun block => .record block.1) ∧
      ∀ coverage : Coverage, coverage.countProfile (encode text) =
        (coverage.countAll (blocks.map Prod.fst), .ok blocks.length) := by
  have htext := decode?_encode text
  have hrecord : ∀ block ∈ blocks, (Line.read (block.1.line block.2)).record? = some block.1 := by
    intro block hblock
    rw [Record.read_line (hrecords block hblock) (hlocations block hblock)]
    rfl
  have hnone : (Line.read header).record? = none := by
    rw [Line.read, List.isPrefixOf_iff_prefix.mpr hheader]
    rfl
  have hlines : ∀ line ∈ header :: blocks.map fun block => block.1.line block.2,
      '\n' ∉ line.toList := by
    intro line hmem
    rcases List.mem_cons.mp hmem with rfl | hmem
    · exact hline
    · obtain ⟨block, hblock, rfl⟩ := List.mem_map.mp hmem
      exact Record.lineFeed_not_mem_line (hrecords block hblock) (hlocations block hblock)
  -- the header is one line and has no record
  have hread : textRecords text = blocks.map Prod.fst := by
    rw [textRecords_of_written hwritten hlines, List.filterMap_cons, hnone, List.filterMap_map]
    exact List.filterMap_eq_map_iff_forall_eq_some.mpr hrecord
  obtain ⟨hall, hcomplete⟩ := read_of_decode?_eq_some htext
  constructor
  · rw [items_of_complete hcomplete, hall, hread, List.map_map]
    rfl
  · intro coverage
    rw [countProfile_of_decode? htext, hread, List.length_map]

/-- The largest count, a path without characters, and a last line without an end. -/
theorem countProfile_written_two_records :
    items (encode "mode: set\r\n:1.1,2.2:x 18446744073709551615 0\npkg/a/é.go: 0 7") =
        [.record ⟨"", .clamp Count.limit, .clamp 0⟩,
          .record ⟨"pkg/a/é.go", .clamp 0, .clamp 7⟩] ∧
      ∀ coverage : Coverage,
        coverage.countProfile
          (encode "mode: set\r\n:1.1,2.2:x 18446744073709551615 0\npkg/a/é.go: 0 7") =
        (coverage.countAll
          [⟨"", .clamp Count.limit, .clamp 0⟩, ⟨"pkg/a/é.go", .clamp 0, .clamp 7⟩], .ok 2) := by
  have hwritten : Written ["mode: set", ":1.1,2.2:x 18446744073709551615 0", "pkg/a/é.go: 0 7"]
      "mode: set\r\n:1.1,2.2:x 18446744073709551615 0\npkg/a/é.go: 0 7" :=
    .ended _ .returnFeed (.ended _ .feed (.unended _))
  -- a statement about every member could be decided by trying every character there is
  have hblanks : ∀ {text : List Char}, text.any Text.isBlank = false →
      ∀ c ∈ text, Text.isBlank c = false := by
    intro text hany c hc
    exact Bool.eq_false_iff.mpr (List.any_eq_false.mp hany c hc)
  refine @countProfile_written [(⟨"", .clamp Count.limit, .clamp 0⟩, "1.1,2.2:x"),
    (⟨"pkg/a/é.go", .clamp 0, .clamp 7⟩, "")] "mode: set" _ (by decide +kernel) (by decide +kernel)
    ?_ ?_ hwritten
  · simp only [List.forall_mem_cons]
    exact ⟨⟨hblanks (by decide +kernel), by decide +kernel, by decide +kernel⟩,
      ⟨hblanks (by decide +kernel), by decide +kernel, by decide +kernel⟩, by simp⟩
  · simp only [List.forall_mem_cons]
    exact ⟨hblanks (by decide +kernel), hblanks (by decide +kernel), by simp⟩

end Coverage

end PackageCoverage
