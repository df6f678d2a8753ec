import Mathlib.Data.List.Basic
import Mathlib.Data.List.TakeWhile
import PackageCoverage.Profile.Writing
import PackageCoverage.Proofs.Profile.WholeText

/-!
# Items line by line

The items of a profile come from its lines one by one.  What a line adds to them it adds alone
(`Profile.Adds`): an unreadable line one item that says so, a line with a record this record, and
any other line nothing.

* **Divided anywhere.**  Whatever is in front of a line feed, the items in front of it come first
  and those behind it follow (`Profile.items_append_lineFeed`).  A carriage return at the end of a
  line makes no difference, so no line end takes a part of a line with it
  (`Profile.item?_dropReturn`).
* **Step by step.**  A reader that takes the next line off the front as long as there are bytes
  (`Profile.Yields`) comes to the same items (`Profile.items_eq_iff_yields`).  It takes an
  unreadable line like any other and goes on behind it.
* **Up to the first unreadable line.**  A reading that stops there is known by the items
  (`Profile.records_read`, `Profile.complete_read_eq_all`), and with it what is counted of a
  profile (`Coverage.countProfile_congr`) and the report on it (`Report.build_congr`).
-/

namespace PackageCoverage

namespace Profile

variable {bytes line later : List UInt8} {added its : List Item}

/-! ## Single lines -/

/-- What a line adds to the items of a profile. -/
inductive Adds (line : List UInt8) : List Item → Prop
  | unreadable (hbad : decode? line = none) : Adds line [.unreadable]
  | record {text : String} {record : Record} (htext : decode? line = some text)
    (hrecord : (Line.read text).record? = some record) : Adds line [.record record]
  | skipped {text : String} (htext : decode? line = some text)
    (hrecord : (Line.read text).record? = none) : Adds line []

theorem adds_iff : Adds line added ↔ added = (item? line).toList := by
  constructor
  · intro hadds
    cases hadds with
    | unreadable hbad => rw [item?, hbad]; rfl
    | record htext hrecord => rw [item?, htext]; simp [hrecord]
    | skipped htext hrecord => rw [item?, htext]; simp [hrecord]
  · rintro rfl
    rw [item?]
    cases htext : decode? line with
    | none => exact .unreadable htext
    | some text =>
        dsimp only
        cases hrecord : (Line.read text).record? with
        | none => exact .skipped htext hrecord
        | some record => exact .record htext hrecord

/-- An item depends on a line only as far as it can be read. -/
private theorem item?_congr {line₁ line₂ : List UInt8}
    (hread : (decode? line₁).map Line.read = (decode? line₂).map Line.read) :
    item? line₁ = item? line₂ := by
  have hitem : ∀ line, item? line =
      ((decode? line).map Line.read).elim (some .unreadable)
        fun read => read.record?.map .record := by
    intro line
    rw [item?]
    cases decode? line <;> rfl
  rw [hitem, hitem, hread]

theorem item?_dropReturn (piece : List UInt8) : item? (dropReturn piece) = item? piece :=
  item?_congr (decode?_dropReturn piece)

theorem item?_append_return (line : List UInt8) :
    item? (line ++ [carriageReturn]) = item? line := by
  have hdrop : dropReturn (line ++ [carriageReturn]) = line := by simp [dropReturn]
  rw [← item?_dropReturn, hdrop]

theorem item?_nil : item? [] = none := by decide +kernel

/-! ## Divided at line feeds -/

@[simp] theorem items_nil : items [] = [] := rfl

theorem items_of_not_mem (hline : lineFeed ∉ line) : items line = (item? line).toList := by
  by_cases hne : line = []
  · rw [hne, item?_nil]
    rfl
  · rw [items, lines_of_not_mem hline hne, List.filterMap_cons]
    cases item? line <;> rfl

/-- The items in front of a line feed come before those behind it. -/
theorem items_append_lineFeed (front later : List UInt8) :
    items (front ++ lineFeed :: later) = items front ++ items later := by
  induction front using induction_on_lines with
  | last piece hpiece =>
      rw [items, lines_append_lineFeed hpiece, List.filterMap_cons, item?_dropReturn,
        items_of_not_mem hpiece, ← items]
      cases item? piece <;> rfl
  | line piece rest hpiece ih =>
      rw [List.append_assoc, List.cons_append, items, items, lines_append_lineFeed hpiece,
        lines_append_lineFeed hpiece, List.filterMap_cons, List.filterMap_cons, ← items, ← items,
        ih]
      cases item? (dropReturn piece) <;> rfl

theorem items_concat_lineFeed (bytes : List UInt8) : items (bytes ++ [lineFeed]) = items bytes := by
  rw [items_append_lineFeed, items_nil, List.append_nil]

/-- A carriage return at the end stays in the last line, where it makes no difference. -/
theorem items_concat_return (bytes : List UInt8) :
    items (bytes ++ [carriageReturn]) = items bytes := by
  have hreturn : carriageReturn ≠ lineFeed := by decide
  induction bytes using induction_on_lines with
  | last piece hpiece =>
      have hline : lineFeed ∉ piece ++ [carriageReturn] := by
        simp [hpiece, hreturn.symm]
      rw [items_of_not_mem hline, items_of_not_mem hpiece, item?_append_return]
  | line piece rest _ ih =>
      rw [List.append_assoc, List.cons_append, items_append_lineFeed, items_append_lineFeed, ih]

theorem items_append_lineEnd (front later : List UInt8) (lineEnd : LineEnd) :
    items (front ++ encode lineEnd.text ++ later) = items front ++ items later := by
  cases lineEnd with
  | feed =>
      have hend : encode LineEnd.feed.text = [lineFeed] := by decide +kernel
      rw [hend, List.append_assoc]
      exact items_append_lineFeed front later
  | returnFeed =>
      have hend : encode LineEnd.returnFeed.text = [carriageReturn] ++ [lineFeed] := by
        decide +kernel
      -- the carriage return counts to the line in front, whose item it does not change
      rw [hend, ← List.append_assoc, List.append_assoc _ [lineFeed]]
      calc items (front ++ [carriageReturn] ++ lineFeed :: later)
          = items (front ++ [carriageReturn]) ++ items later := items_append_lineFeed _ _
        _ = items front ++ items later := by rw [items_concat_return]

/-- Bytes are whole lines if the last line has its end. -/
def IsWholeLines (bytes : List UInt8) : Prop := bytes = [] ∨ bytes.getLast? = some lineFeed

/-- What is put behind whole lines is read as if it came on its own. -/
theorem items_append {front : List UInt8} (hfront : IsWholeLines front) (back : List UInt8) :
    items (front ++ back) = items front ++ items back := by
  rcases hfront with rfl | hlast
  · rfl
  · obtain ⟨lines, rfl⟩ := List.getLast?_eq_some_iff.mp hlast
    rw [List.append_assoc, items_concat_lineFeed]
    exact items_append_lineFeed lines back

/-! ## Step by step -/

/-- A reader takes lines off the front of some bytes, which adds some items and leaves the bytes
behind the last line that it took. -/
inductive Yields : List UInt8 → List Item → List UInt8 → Prop
  | stop (bytes : List UInt8) : Yields bytes [] bytes
  | line {bytes line rest later : List UInt8} {added its : List Item}
    (hnext : nextLine? bytes = some (line, rest)) (hadds : Adds line added)
    (hlater : Yields rest its later) : Yields bytes (added ++ its) later

theorem items_of_nextLine? {rest : List UInt8} (hnext : nextLine? bytes = some (line, rest)) :
    items bytes = (item? line).toList ++ items rest := by
  -- behind the last line feed there is a line only if there are bytes
  induction bytes using induction_on_lines with
  | last piece hpiece =>
      by_cases hne : piece = []
      · rw [hne] at hnext
        cases hnext
      · rw [nextLine?_of_not_mem hpiece hne] at hnext
        cases hnext
        rw [items_of_not_mem hpiece, items_nil, List.append_nil]
  | line piece back hpiece _ =>
      rw [nextLine?_append_lineFeed hpiece] at hnext
      cases hnext
      rw [items_append_lineFeed, items_of_not_mem hpiece, item?_dropReturn]

theorem Yields.items_eq (hyields : Yields bytes its later) : items bytes = its ++ items later := by
  induction hyields with
  | stop bytes => rfl
  | line hnext hadds _ ih => rw [items_of_nextLine? hnext, adds_iff.mp hadds, ih, List.append_assoc]

/-- A reader can go on to the end. -/
theorem yields_items (bytes : List UInt8) : Yields bytes (items bytes) [] := by
  induction bytes using induction_on_lines with
  | last piece hpiece =>
      by_cases hne : piece = []
      · rw [hne]
        exact .stop []
      · have hyields := Yields.line (nextLine?_of_not_mem hpiece hne) (adds_iff.mpr rfl) (.stop [])
        rwa [List.append_nil, ← items_of_not_mem hpiece] at hyields
  | line piece later hpiece ih =>
      have hnext := nextLine?_append_lineFeed hpiece later
      rw [items_of_nextLine? hnext]
      exact .line hnext (adds_iff.mpr rfl) ih

theorem items_eq_iff_yields : items bytes = its ↔ Yields bytes its [] := by
  constructor
  · rintro rfl
    exact yields_items bytes
  · intro hyields
    rw [hyields.items_eq, items_nil, List.append_nil]

/-! ## Records -/

/-- The record of an item, unless it is that of an unreadable line. -/
def Item.record? : Item → Option Record
  | .record block => some block
  | .unreadable => none

@[simp] theorem Item.record?_record (block : Record) : (Item.record block).record? = some block :=
  rfl

@[simp] theorem Item.record?_unreadable : Item.unreadable.record? = none := rfl

/-- The records among the items are those of the lines that are text. -/
theorem filterMap_record?_items (bytes : List UInt8) :
    (items bytes).filterMap Item.record? =
      ((lines bytes).filterMap decode?).filterMap fun text => (Line.read text).record? := by
  rw [items, List.filterMap_filterMap, List.filterMap_filterMap]
  refine List.filterMap_congr fun line _ => ?_
  rw [item?]
  cases decode? line with
  | none => rfl
  | some text =>
      cases hrecord : (Line.read text).record? <;> simp [hrecord]

/-- **Reading goes on behind every line.**  The items of whole lines and of what is put behind them
are the items of both, one after the other.  All items are yielded by a reader that takes one line
after the other to the end, so that each line adds what it adds alone, in its place: one unreadable
item if it is not text, and its record, if it has one, if it is.  The records among the items are
therefore those of the lines that are text.  A line that is text and has no record can come in or
go anywhere, with either end or none, and the items stay the same. -/
theorem items_resume :
    (∀ front back, IsWholeLines front → items (front ++ back) = items front ++ items back) ∧
      (∀ bytes its, items bytes = its ↔ Yields bytes its []) ∧
      (∀ front line added (lineEnd : LineEnd) back, IsWholeLines front → lineFeed ∉ line →
        Adds line added →
        items (front ++ (line ++ encode lineEnd.text) ++ back) =
            items front ++ added ++ items back ∧
          items (front ++ line) = items front ++ added) ∧
      (∀ bytes, (items bytes).filterMap Item.record? =
        ((lines bytes).filterMap decode?).filterMap fun text => (Line.read text).record?) ∧
      ∀ front line (lineEnd : LineEnd) back, lineFeed ∉ line → Adds line [] →
        (IsWholeLines front →
          items (front ++ (line ++ encode lineEnd.text) ++ back) = items (front ++ back) ∧
            items (front ++ line) = items front) ∧
          items (front ++ encode lineEnd.text ++ line) = items front := by
  have hplace : ∀ front line added (lineEnd : LineEnd) back, IsWholeLines front → lineFeed ∉ line →
      Adds line added →
      items (front ++ (line ++ encode lineEnd.text) ++ back) = items front ++ added ++ items back ∧
        items (front ++ line) = items front ++ added := by
    intro front line added lineEnd back hfront hline hadds
    -- behind whole lines, a line is read by itself
    have hlast : items (front ++ line) = items front ++ added := by
      rw [items_append hfront, items_of_not_mem hline, adds_iff.mp hadds]
    refine ⟨?_, hlast⟩
    rw [← List.append_assoc, items_append_lineEnd, hlast]
  refine ⟨?_, ?_, hplace, filterMap_record?_items, ?_⟩
  · intro front back hfront
    exact items_append hfront back
  · intro bytes its
    exact items_eq_iff_yields
  · intro front line lineEnd back hline hadds
    constructor
    · intro hfront
      obtain ⟨hwithin, hlast⟩ := hplace front line [] lineEnd back hfront hline hadds
      rw [List.append_nil] at hwithin hlast
      exact ⟨by rw [hwithin, items_append hfront], hlast⟩
    · rw [items_append_lineEnd, items_of_not_mem hline, ← adds_iff.mp hadds, List.append_nil]

/-- A line that is no text stands between two records, and so does a header instead of it. -/
theorem items_resume_unreadable_line :
    let front := encode "pkg/a/x.go:1.1,2.2 1 1\n"
    let back := encode "pkg/b/y.go:1.1,2.2 2 0"
    IsWholeLines front ∧
      items (front ++ back) = items front ++ items back ∧
      items (front ++ ([0xff, 0xc3] ++ encode LineEnd.returnFeed.text) ++ back) =
        items front ++ [.unreadable] ++ items back ∧
      items (front ++ (encode "mode: set" ++ encode LineEnd.feed.text) ++ back) =
        items (front ++ back) := by
  intro front back
  have hfront : IsWholeLines front := .inr (by decide +kernel)
  have hbad : Adds [0xff, 0xc3] [.unreadable] := .unreadable (by decide +kernel)
  have htext : decode? (encode "mode: set") = some "mode: set" := by decide +kernel
  have hheader : Adds (encode "mode: set") [] := .skipped htext (by decide +kernel)
  obtain ⟨happend, _, hplace, _, hskip⟩ := items_resume
  refine ⟨hfront, happend front back hfront, ?_, ?_⟩
  · exact (hplace front _ _ .returnFeed back hfront (by decide +kernel) hbad).1
  · exact ((hskip front _ .feed back (by decide +kernel) hheader).1 hfront).1

/-! ## Up to the first unreadable line -/

/-- The records of a reading are those in front of the first unreadable item. -/
theorem records_read (bytes : List UInt8) :
    (read bytes).records =
      ((items bytes).takeWhile fun item => item.record?.isSome).filterMap Item.record? := by
  unfold read items Reading.records
  induction lines bytes with
  | nil => rfl
  | cons line later ih =>
      rw [List.map_cons, List.filterMap_cons, item?]
      -- an unreadable line stops the reading and is the first item without a record
      cases decode? line with
      | none => rfl
      | some text =>
          dsimp only at ih ⊢
          cases hrecord : (Line.read text).record? <;>
            simpa [hrecord, List.takeWhile_cons] using ih

/-- A reading is complete if no item is unreadable. -/
theorem complete_read_eq_all (bytes : List UInt8) :
    (read bytes).complete = (items bytes).all fun item => item.record?.isSome := by
  unfold read items
  induction lines bytes with
  | nil => rfl
  | cons line later ih =>
      rw [List.map_cons, List.filterMap_cons, item?]
      cases decode? line with
      | none => rfl
      | some text =>
          dsimp only at ih ⊢
          cases (Line.read text).record? <;> simpa using ih

theorem items_of_complete (hcomplete : (read bytes).complete = true) :
    items bytes = (read bytes).records.map .record := by
  rw [complete_read_eq_all, List.all_eq_true] at hcomplete
  have hitem : ∀ item ∈ items bytes, item.record?.map .record = some item := by
    intro item hmem
    cases item with
    | record block => rfl
    | unreadable => exact absurd (hcomplete _ hmem) (by decide)
  rw [records_read, List.takeWhile_eq_self_iff.mpr hcomplete, List.map_filterMap,
    List.filterMap_congr hitem, List.filterMap_some]

/-- The records of whole lines, all of them text, come before those of what is put behind them. -/
theorem records_read_append {front : List UInt8} (hfront : IsWholeLines front)
    (hcomplete : (read front).complete = true) (back : List UInt8) :
    (read (front ++ back)).records = (read front).records ++ (read back).records ∧
      (read (front ++ back)).complete = (read back).complete := by
  rw [complete_read_eq_all] at hcomplete
  have hall := List.all_eq_true.mp hcomplete
  constructor
  · rw [records_read, records_read, records_read, items_append hfront,
      List.takeWhile_append_of_pos hall, List.filterMap_append,
      List.takeWhile_eq_self_iff.mpr hall]
  · rw [complete_read_eq_all, complete_read_eq_all, items_append hfront, List.all_append,
      hcomplete, Bool.true_and]

end Profile

open Profile

variable {first second : List UInt8}

theorem Coverage.countProfile_congr (hitems : items first = items second) (coverage : Coverage) :
    coverage.countProfile first = coverage.countProfile second := by
  have hrecords : (read first).records = (read second).records := by
    rw [records_read, records_read, hitems]
  have hcomplete : (read first).complete = (read second).complete := by
    rw [complete_read_eq_all, complete_read_eq_all, hitems]
  rw [countProfile_eq, countProfile_eq, countReading, countReading, hrecords, hcomplete]

/-- The report on a profile depends on its items only. -/
theorem Report.build_congr {directory₁ directory₂ : Directory} {config : Config}
    (hfirst : directory₁.find config.input = .ok (.file first))
    (hsecond : directory₂.find config.input = .ok (.file second))
    (hitems : items first = items second) :
    (build directory₁ config).2 = (build directory₂ config).2 := by
  have hcoverage := Coverage.countProfile_congr hitems (.empty (.ofPath config.root))
  rw [Coverage.countProfile_eq, Coverage.countProfile_eq] at hcoverage
  have hcomplete : (read first).complete = (read second).complete := by
    rw [complete_read_eq_all, complete_read_eq_all, hitems]
  simp only [build, hfirst, hsecond, ofReading, (Prod.mk.inj hcoverage).1, hcomplete]

end PackageCoverage
