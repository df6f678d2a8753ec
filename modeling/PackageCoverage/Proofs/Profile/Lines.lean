import PackageCoverage.Package.Streaming
import PackageCoverage.Proofs.Text.Utf8

/-!
# Profiles line by line

Bytes are either free of line feeds or a piece without line feeds, a line feed, and
bytes behind it (`induction_on_lines`).  What is read from a profile follows this
division: the lines (`lines_append_lineFeed`), the line that is taken off the front
(`nextLine?_append_lineFeed`), and the part in front of the first unreadable line
(`read_append_lineFeed`).

Counting a profile while it is read therefore comes to the same as reading it first
and counting then (`countProfile_eq`).
-/

namespace PackageCoverage

namespace Profile

/-! ## Division at line feeds -/

/-- The pieces of a profile are what the line feeds in it divide. -/
theorem pieces_eq_splitOn (bytes : List UInt8) : pieces bytes = bytes.splitOn lineFeed := by
  induction bytes with
  | nil => rfl
  | cons byte later ih =>
      rw [List.splitOn_cons_eq_if_modifyHead, ← ih]
      change consPiece byte (pieces later) = _
      by_cases hbyte : byte = lineFeed
      · simp [consPiece, hbyte]
      · cases hpieces : pieces later with
        | nil => exact absurd (ih ▸ hpieces) (List.splitOn_ne_nil _ _)
        | cons piece rest => simp [consPiece, hbyte]

theorem pieces_of_not_mem {piece : List UInt8} (hpiece : lineFeed ∉ piece) :
    pieces piece = [piece] := by
  rw [pieces_eq_splitOn, List.splitOn_eq_singleton hpiece]

theorem pieces_append_lineFeed {piece : List UInt8} (hpiece : lineFeed ∉ piece)
    (later : List UInt8) : pieces (piece ++ lineFeed :: later) = piece :: pieces later := by
  rw [pieces_eq_splitOn, pieces_eq_splitOn,
    List.splitOn_append_cons_self_of_not_mem hpiece]

theorem pieces_ne_nil (bytes : List UInt8) : pieces bytes ≠ [] := by
  rw [pieces_eq_splitOn]
  exact List.splitOn_ne_nil _ _

/-- What holds of bytes without line feeds, and of a line in front of bytes of which it
holds, holds of all bytes. -/
@[elab_as_elim]
theorem induction_on_lines {motive : List UInt8 → Prop}
    (last : ∀ piece, lineFeed ∉ piece → motive piece)
    (line : ∀ piece later, lineFeed ∉ piece → motive later →
      motive (piece ++ lineFeed :: later)) (bytes : List UInt8) : motive bytes := by
  by_cases hmem : lineFeed ∈ bytes
  · obtain ⟨piece, later, hbytes, hpiece⟩ := List.eq_append_cons_of_mem hmem
    have hlength : later.length < bytes.length := by
      rw [hbytes, List.length_append, List.length_cons]
      omega
    exact hbytes ▸ line piece later hpiece (induction_on_lines last line later)
  · exact last bytes hmem
termination_by bytes.length

/-! ## Lines -/

@[simp] theorem lines_nil : lines [] = [] := rfl

theorem lines_of_not_mem {piece : List UInt8} (hpiece : lineFeed ∉ piece) (hne : piece ≠ []) :
    lines piece = [piece] := by
  simp [lines, pieces_of_not_mem hpiece, hne]

/-- A line feed ends a line, and the lines behind it are those of the bytes behind it. -/
theorem lines_append_lineFeed {piece : List UInt8} (hpiece : lineFeed ∉ piece)
    (later : List UInt8) :
    lines (piece ++ lineFeed :: later) = dropReturn piece :: lines later := by
  have hlater := pieces_ne_nil later
  rw [lines, lines, pieces_append_lineFeed hpiece, List.dropLast_cons_of_ne_nil hlater,
    List.getLast?_cons_of_ne_nil hlater]
  rfl

private theorem forall_ne_lineFeed {piece : List UInt8} (hpiece : lineFeed ∉ piece) :
    ∀ byte ∈ piece, decide (byte ≠ lineFeed) = true := by
  intro byte hbyte
  rw [decide_eq_true_eq]
  rintro rfl
  exact hpiece hbyte

theorem nextLine?_of_not_mem {piece : List UInt8} (hpiece : lineFeed ∉ piece)
    (hne : piece ≠ []) : nextLine? piece = some (piece, []) := by
  have hdrop : piece.dropWhile (· ≠ lineFeed) = [] := by
    have happend : (piece ++ []).dropWhile (· ≠ lineFeed) = [] :=
      List.dropWhile_append_of_pos (forall_ne_lineFeed hpiece)
    rwa [List.append_nil] at happend
  rw [nextLine?, hdrop]
  simp [hne]

theorem nextLine?_append_lineFeed {piece : List UInt8} (hpiece : lineFeed ∉ piece)
    (later : List UInt8) :
    nextLine? (piece ++ lineFeed :: later) = some (dropReturn piece, later) := by
  have hall := forall_ne_lineFeed hpiece
  rw [nextLine?, List.dropWhile_append_of_pos hall, List.takeWhile_append_of_pos hall]
  simp

/-! ## The part in front of the first unreadable line -/

/-- What reading comes to with one more line in front. -/
def Reading.withLine (line : List UInt8) (reading : Reading) : Reading :=
  match decode? line with
  | none => ⟨[], false⟩
  | some text => ⟨text :: reading.texts, reading.complete⟩

@[simp] theorem read_nil : read [] = ⟨[], true⟩ := rfl

private theorem read_of_lines_eq_cons {bytes line later : List UInt8}
    (hlines : lines bytes = line :: lines later) : read bytes = (read later).withLine line := by
  rw [read, hlines, Reading.withLine, List.map_cons]
  cases decode? line <;> simp [read]

theorem read_of_not_mem {piece : List UInt8} (hpiece : lineFeed ∉ piece) (hne : piece ≠ []) :
    read piece = (read []).withLine piece :=
  read_of_lines_eq_cons (by rw [lines_of_not_mem hpiece hne, lines_nil])

theorem read_append_lineFeed {piece : List UInt8} (hpiece : lineFeed ∉ piece)
    (later : List UInt8) :
    read (piece ++ lineFeed :: later) = (read later).withLine (dropReturn piece) :=
  read_of_lines_eq_cons (lines_append_lineFeed hpiece later)

end Profile

/-! ## Counting while reading -/

namespace Coverage

open Profile

/-- What counting the records of a reading comes to, with `seen` records before them. -/
private def countedFrom (coverage : Coverage) (seen : Nat) (reading : Reading) :
    Coverage × Except FileFault Nat :=
  (coverage.countReading reading,
    if reading.complete then .ok (seen + reading.records.length) else .error .invalidText)

/-- One round of the reader counts the line that it takes. -/
private theorem countFrom_of_nextLine? {coverage : Coverage} {seen : Nat}
    {bytes line later : List UInt8} (hnext : nextLine? bytes = some (line, later))
    (ih : ∀ coverage seen, countFrom coverage seen later = countedFrom coverage seen (read later)) :
    countFrom coverage seen bytes = countedFrom coverage seen ((read later).withLine line) := by
  rw [countFrom]
  split
  case h_1 hnone => simp [hnext] at hnone
  case h_2 line' later' hsome =>
      obtain ⟨rfl, rfl⟩ : line = line' ∧ later = later' := by simpa [hnext] using hsome
      -- an unreadable line stops, one without a record is passed over, a record is counted
      cases htext : decode? line with
      | none =>
          simp [item?, htext, countedFrom, Reading.withLine, countReading, Reading.records,
            countAll]
      | some text =>
          cases hrecord : (Line.read text).record? with
          | none =>
              simp [item?, htext, hrecord, ih, countedFrom, Reading.withLine, countReading,
                Reading.records]
          | some record =>
              simp [item?, htext, hrecord, ih, countedFrom, Reading.withLine, countReading,
                Reading.records, countAll, Nat.add_assoc, Nat.add_comm 1]

private theorem countFrom_eq (bytes : List UInt8) (coverage : Coverage) (seen : Nat) :
    countFrom coverage seen bytes = countedFrom coverage seen (read bytes) := by
  have hnil : ∀ coverage seen,
      countFrom coverage seen [] = countedFrom coverage seen (read []) := by
    intro coverage seen
    rw [countFrom]
    rfl
  -- coverage and number are general, since both have grown when the next line is read
  induction bytes using induction_on_lines generalizing coverage seen with
  | last piece hpiece =>
      by_cases hne : piece = []
      · subst hne
        exact hnil coverage seen
      · rw [read_of_not_mem hpiece hne]
        exact countFrom_of_nextLine? (nextLine?_of_not_mem hpiece hne) hnil
  | line piece later hpiece ih =>
      rw [read_append_lineFeed hpiece]
      exact countFrom_of_nextLine? (nextLine?_append_lineFeed hpiece later) fun coverage seen =>
        ih coverage seen

/-- A profile can be counted while it is read or after it was read. -/
theorem countProfile_eq (coverage : Coverage) (bytes : List UInt8) :
    coverage.countProfile bytes = (coverage.countReading (read bytes),
      if (read bytes).complete then .ok (read bytes).records.length else .error .invalidText) := by
  simpa [countProfile, countedFrom] using countFrom_eq bytes coverage 0

end Coverage

end PackageCoverage
