import PackageCoverage.Proofs.Profile.Lines
import PackageCoverage.Proofs.Text.Fields
import PackageCoverage.Run

/-!
# Profiles as one text

A profile that is text as a whole can be read in the plainest way: decode all of it,
divide it at its line feeds, and keep the records of the pieces.  `textRecords` is
that reading, and reading line by line comes to the same
(`countProfile_eq_textRecords`).  Two things keep the readings apart until then.

* **Ends of lines.**  A line loses the carriage return in front of its line feed and
  a piece of the text keeps it, but a blank at the end of a line changes nothing
  (`Line.read_append_return`).
* **Decoding.**  Lines are decoded one by one.  A line feed is a character in ASCII,
  so the whole is text just when every line is (`decode?_append_lineFeed`), and if it
  is not, the lines in front of the first bad one are text together.
-/

namespace PackageCoverage

/-! ## Carriage returns at the end of a line -/

/-- A carriage return at the end of a line is of no account. -/
theorem Line.read_append_return (text : String) : Line.read (text ++ "\r") = Line.read text := by
  have hheader :
      headerMark.isPrefixOf (text ++ "\r").toList = headerMark.isPrefixOf text.toList := by
    rw [Bool.eq_iff_iff, List.isPrefixOf_iff_prefix, List.isPrefixOf_iff_prefix,
      String.toList_append]
    refine ⟨fun hprefix => ?_, fun hprefix => hprefix.trans (List.prefix_append _ _)⟩
    -- a header mark that needs the carriage return would end with it
    refine (List.prefix_concat_iff.mp hprefix).resolve_left fun heq => ?_
    have hmem : '\r' ∈ headerMark := heq ▸ List.mem_concat_self
    exact absurd hmem (by decide)
  have hfields : Text.fields (text ++ "\r").toList = Text.fields text.toList := by
    rw [String.toList_append]
    exact Text.fields_concat (by decide) text.toList
  rw [Line.read, Line.read, hheader, hfields]

namespace Profile

/-! ## Decoding line by line -/

theorem decode?_append_lineFeed (front later : List UInt8) :
    decode? (front ++ lineFeed :: later) =
      (decode? front).bind fun text₁ =>
        (decode? later).map fun text₂ => text₁ ++ "\n" ++ text₂ :=
  decode?_append_cons (c := '\n') rfl front later

/-- Dropping a carriage return does not make bytes text, nor does it change the line. -/
theorem decode?_dropReturn (piece : List UInt8) :
    (decode? (dropReturn piece)).map Line.read = (decode? piece).map Line.read := by
  unfold dropReturn
  split
  case isFalse => rfl
  case isTrue hlast =>
      obtain ⟨front, rfl⟩ := List.getLast?_eq_some_iff.mp hlast
      have hdecode := decode?_append_cons (c := '\r') rfl front []
      change decode? (front ++ [carriageReturn]) = _ at hdecode
      rw [List.dropLast_concat, hdecode]
      -- bytes are text with a carriage return behind them just if they are without it
      cases decode? front with
      | none => rfl
      | some text =>
          simp only [decode?_nil, Option.bind_some, Option.map_some, String.append_empty]
          exact congrArg some (Line.read_append_return text).symm

theorem lineFeed_mem_of_decode? {bytes : List UInt8} {text : String}
    (htext : decode? bytes = some text) (hmem : '\n' ∈ text.toList) : lineFeed ∈ bytes := by
  rw [decode?_eq_some_iff, ← String.utf8Encode_toList, List.utf8Encode,
    List.toByteArray_inj] at htext
  rw [← htext, List.mem_flatMap]
  exact ⟨'\n', hmem, by decide⟩

/-! ## Reading a text at once -/

/-- The records of a text, read piece by piece between its line feeds. -/
def textRecords (text : String) : List Record :=
  (text.split '\n').toList.filterMap fun piece => (Line.read piece.copy).record?

private theorem textRecords_eq (text : String) :
    textRecords text =
      (text.toList.splitOn '\n').filterMap fun piece => (Line.read (.ofList piece)).record? := by
  have hsplit := congrArg (List.filterMap fun piece => (Line.read piece).record?)
    (String.toList_split_char (s := text) (c := '\n'))
  simpa [textRecords, List.filterMap_map, Function.comp_def] using hsplit

theorem textRecords_of_not_mem {text : String} (hmem : '\n' ∉ text.toList) :
    textRecords text = (Line.read text).record?.toList := by
  rw [textRecords_eq, List.splitOn_eq_singleton hmem]
  cases hrecord : (Line.read text).record? <;> simp [hrecord]

theorem textRecords_append (front later : String) :
    textRecords (front ++ "\n" ++ later) = textRecords front ++ textRecords later := by
  have hlist : (front ++ "\n" ++ later).toList = front.toList ++ '\n' :: later.toList := by
    simp
  rw [textRecords_eq, textRecords_eq, textRecords_eq, hlist, List.splitOn_append_cons_self,
    List.filterMap_append]

/-! ## Both readings -/

variable {line piece : List UInt8}

/-- A line adds to what is read behind it what its piece adds to the text. -/
theorem records_withLine {text : String} (htext : decode? piece = some text)
    (hpiece : lineFeed ∉ piece)
    (hline : (decode? line).map Line.read = (decode? piece).map Line.read) (reading : Reading) :
    (reading.withLine line).records = textRecords text ++ reading.records ∧
      (reading.withLine line).complete = reading.complete := by
  rw [htext, Option.map_some, Option.map_eq_some_iff] at hline
  obtain ⟨lineText, hlineText, hsame⟩ := hline
  rw [textRecords_of_not_mem fun hmem => hpiece (lineFeed_mem_of_decode? htext hmem), ← hsame,
    Reading.withLine, hlineText]
  cases hrecord : (Line.read lineText).record? <;> simp [Reading.records, hrecord]

theorem withLine_of_decode?_eq_none (hpiece : decode? piece = none)
    (hline : (decode? line).map Line.read = (decode? piece).map Line.read) (reading : Reading) :
    reading.withLine line = ⟨[], false⟩ := by
  rw [hpiece, Option.map_none, Option.map_eq_none_iff] at hline
  rw [Reading.withLine, hline]

/-- A profile that is text is read to its end, and the records are those of the text. -/
theorem read_of_decode?_eq_some {bytes : List UInt8} {text : String}
    (htext : decode? bytes = some text) :
    (read bytes).records = textRecords text ∧ (read bytes).complete = true := by
  induction bytes using induction_on_lines generalizing text with
  | last piece hpiece =>
      by_cases hne : piece = []
      · subst hne
        obtain rfl : "" = text := by simpa using htext
        rw [textRecords_of_not_mem (by simp)]
        exact ⟨rfl, rfl⟩
      · rw [read_of_not_mem hpiece hne]
        obtain ⟨hrecords, hcomplete⟩ := records_withLine htext hpiece rfl (read [])
        exact ⟨by rw [hrecords]; exact List.append_nil _, hcomplete⟩
  | line piece later hpiece ih =>
      rw [decode?_append_lineFeed, Option.bind_eq_some_iff] at htext
      obtain ⟨front, hfront, hlater⟩ := htext
      obtain ⟨rest, hrest, rfl⟩ := Option.map_eq_some_iff.mp hlater
      obtain ⟨hrecords, hcomplete⟩ :=
        records_withLine hfront hpiece (decode?_dropReturn piece) (read later)
      obtain ⟨ihRecords, ihComplete⟩ := ih hrest
      rw [read_append_lineFeed hpiece, textRecords_append]
      exact ⟨by rw [hrecords, ihRecords], by rw [hcomplete, ihComplete]⟩

/-- What a profile is made of that is not text: lines that are text together, the first
line that is not, and the bytes behind that line. -/
structure BadLine (bytes front line back : List UInt8) (text : String) : Prop where
  bytes_eq : bytes = front ++ line ++ back
  front_ends : front = [] ∨ front.getLast? = some lineFeed
  lineFeed_not_mem : lineFeed ∉ line
  back_starts : back = [] ∨ back.head? = some lineFeed
  front_text : decode? front = some text
  line_bad : decode? line = none

/-- A profile that is not text is read up to its first bad line. -/
theorem read_of_decode?_eq_none {bytes : List UInt8} (hbad : decode? bytes = none) :
    ∃ front line back text, BadLine bytes front line back text ∧
      (read bytes).records = textRecords text ∧ (read bytes).complete = false := by
  induction bytes using induction_on_lines with
  | last piece hpiece =>
      have hne : piece ≠ [] := by
        rintro rfl
        simp at hbad
      refine ⟨[], piece, [], "", ⟨by simp, .inl rfl, hpiece, .inl rfl, decode?_nil, hbad⟩, ?_⟩
      rw [read_of_not_mem hpiece hne, withLine_of_decode?_eq_none hbad rfl,
        textRecords_of_not_mem (by simp)]
      exact ⟨rfl, rfl⟩
  | line piece later hpiece ih =>
      rw [read_append_lineFeed hpiece]
      -- either the first line is the bad one, or it goes in front of what is found behind it
      cases hfront : decode? piece with
      | none =>
          refine ⟨[], piece, lineFeed :: later, "",
            ⟨by simp, .inl rfl, hpiece, .inr rfl, decode?_nil, hfront⟩, ?_⟩
          rw [withLine_of_decode?_eq_none hfront (decode?_dropReturn piece),
            textRecords_of_not_mem (by simp)]
          exact ⟨rfl, rfl⟩
      | some text =>
          have hlater : decode? later = none := by
            simpa [decode?_append_lineFeed, hfront] using hbad
          obtain ⟨front, line, back, rest, hline, hrecords, hcomplete⟩ := ih hlater
          obtain ⟨hwithRecords, hwithComplete⟩ :=
            records_withLine hfront hpiece (decode?_dropReturn piece) (read later)
          refine ⟨piece ++ lineFeed :: front, line, back, text ++ "\n" ++ rest, ?_, ?_, ?_⟩
          · exact {
              bytes_eq := by simp [hline.bytes_eq]
              front_ends := by
                right
                rcases hline.front_ends with rfl | hends
                · simp
                · simp [List.getLast?_append, hends, List.getLast?_cons]
              lineFeed_not_mem := hline.lineFeed_not_mem
              back_starts := hline.back_starts
              front_text := by
                rw [decode?_append_lineFeed, hfront, hline.front_text]
                rfl
              line_bad := hline.line_bad }
          · rw [hwithRecords, hrecords, textRecords_append]
          · rw [hwithComplete, hcomplete]

/-- Reading comes to the end just when the profile is text as a whole. -/
theorem complete_read (bytes : List UInt8) :
    (read bytes).complete = (decode? bytes).isSome := by
  cases hbytes : decode? bytes with
  | some text => exact (read_of_decode?_eq_some hbytes).2
  | none =>
      obtain ⟨_, _, _, _, _, _, hcomplete⟩ := read_of_decode?_eq_none hbytes
      exact hcomplete

end Profile

/-! ## Counting a profile -/

namespace Coverage

open Profile

theorem countProfile_of_decode? {bytes : List UInt8} {text : String}
    (htext : decode? bytes = some text) (coverage : Coverage) :
    coverage.countProfile bytes =
      (coverage.countAll (textRecords text), .ok (textRecords text).length) := by
  obtain ⟨hrecords, hcomplete⟩ := read_of_decode?_eq_some htext
  rw [countProfile_eq, countReading, hrecords, hcomplete]
  rfl

/-- **Reading line by line is reading the text.**  A profile that is text as a whole is
counted as the list of the records of its text.  Otherwise what is counted are the
records of the text in front of the first line that is not text, and the fault is told
as one of reading a line. -/
theorem countProfile_eq_textRecords (coverage : Coverage) (bytes : List UInt8) :
    match decode? bytes with
    | some text =>
      coverage.countProfile bytes =
        (coverage.countAll (textRecords text), .ok (textRecords text).length)
    | none =>
      ∃ front line back text fault, BadLine bytes front line back text ∧
        coverage.countProfile bytes = (coverage.countAll (textRecords text), .error fault) ∧
        Failure.lineMessage fault =
          "Failed to read coverage profile line: stream did not contain valid UTF-8" := by
  rw [countProfile_eq, countReading]
  cases hbytes : decode? bytes with
  | some text =>
      obtain ⟨hrecords, hcomplete⟩ := read_of_decode?_eq_some hbytes
      rw [hrecords, hcomplete]
      rfl
  | none =>
      obtain ⟨front, line, back, text, hline, hrecords, hcomplete⟩ := read_of_decode?_eq_none hbytes
      refine ⟨front, line, back, text, .invalidText, hline, ?_, rfl⟩
      rw [hrecords, hcomplete]
      rfl

end Coverage

end PackageCoverage
