import Mathlib.Data.List.Induction
import PackageCoverage.Profile.Line
import PackageCoverage.Proofs.Text.Fields

/-!
# The grammar of a line

`Line.Grammar` says which lines have a record, and which record, without reading anything: the
line is no header, it starts with three words among blanks, the second and third word write
counts, and the path is what stands in front of the first colon of the first word.

* **Counts.**  A numeral is one digit, or a numeral and one more digit (`Count.Numeral`).  Reading
  a field finds the number that the numeral in it writes (`Count.read?_eq_some_iff`), with any
  number of zeros in front and one plus sign at most.
* **Words.**  The words are first fields, taken off the line one after the other
  (`Text.FirstThree`), so blanks around them and all that is behind the third one are of no
  account.
* **Lines.**  A line has a record just when the grammar says so (`Line.record?_read_eq_some_iff`).
-/

namespace PackageCoverage

/-! ## Counts -/

namespace Count

/-- Decimal digits write a number. -/
inductive Numeral : List Char → Nat → Prop
  | digit {d : Char} (hdigit : d.isDigit = true) : Numeral [d] (d.toNat - '0'.toNat)
  | more {front : List Char} {value : Nat} {d : Char} (hfront : Numeral front value)
    (hdigit : d.isDigit = true) : Numeral (front ++ [d]) (10 * value + (d.toNat - '0'.toNat))

/-- A field writes a count: a numeral, which may have a plus sign in front of it. -/
inductive WrittenAs (count : Count) : List Char → Prop
  | plain {digits : List Char} (hnumeral : Numeral digits count.value) : WrittenAs count digits
  | signed {digits : List Char} (hnumeral : Numeral digits count.value) :
    WrittenAs count ('+' :: digits)

variable {digits field : List Char} {count : Count} {value : Nat}

theorem Numeral.isDigit (hnumeral : Numeral digits value) : ∀ d ∈ digits, d.isDigit = true := by
  induction hnumeral with
  | digit hdigit => simpa using hdigit
  | more _ hdigit ih =>
      intro d hd
      rcases List.mem_append.mp hd with hd | hd
      · exact ih d hd
      · rwa [List.mem_singleton.mp hd]

theorem numeral_iff :
    Numeral digits value ↔
      digits ≠ [] ∧ digits.all Char.isDigit = true ∧ Nat.ofDigitChars 10 digits 0 = value := by
  constructor
  · intro hnumeral
    refine ⟨?_, List.all_eq_true.mpr hnumeral.isDigit, ?_⟩
    · cases hnumeral <;> simp
    · induction hnumeral with
      | digit _ => simp [Nat.ofDigitChars]
      | more _ _ ih => rw [Nat.ofDigitChars_append, ih]; rfl
  · rintro ⟨hne, hall, rfl⟩
    -- numerals grow at the back, and so does the value of digits
    induction digits using List.reverseRecOn with
    | nil => exact absurd rfl hne
    | append_singleton front d ih =>
        rw [List.all_append, Bool.and_eq_true] at hall
        obtain ⟨hfront, hd⟩ := hall
        have hdigit : d.isDigit = true := by simpa using hd
        rw [Nat.ofDigitChars_append]
        by_cases hempty : front = []
        · subst hempty
          have hone := Numeral.digit hdigit
          simpa [Nat.ofDigitChars] using hone
        · exact .more (ih hempty hfront) hdigit

theorem Numeral.head?_ne (hnumeral : Numeral digits value) {c : Char} (hc : c.isDigit = false) :
    digits.head? ≠ some c := by
  intro hhead
  have hdigit := hnumeral.isDigit c (List.mem_of_mem_head? hhead)
  rw [hc] at hdigit
  exact Bool.false_ne_true hdigit

/-- Reading digits finds the number that they write, up to the limit. -/
private theorem readDigits_eq_some_iff :
    (if digits.isEmpty || !digits.all Char.isDigit then none
      else if hvalue : Nat.ofDigitChars 10 digits 0 ≤ limit then
        some (⟨Nat.ofDigitChars 10 digits 0, hvalue⟩ : Count)
      else none) = some count ↔ Numeral digits count.value := by
  rw [numeral_iff]
  constructor
  · intro hread
    split at hread
    · cases hread
    case isFalse hdigits =>
        split at hread
        case isTrue hvalue =>
            cases hread
            simpa using hdigits
        case isFalse => cases hread
  · rintro ⟨hne, hall, hvalue⟩
    have hlimit : Nat.ofDigitChars 10 digits 0 ≤ limit := hvalue ▸ count.value_le
    rw [if_neg (by simp [hne, hall]), dif_pos hlimit]
    exact congrArg some (ext hvalue)

theorem read?_eq_some_iff : read? field = some count ↔ count.WrittenAs field := by
  have hplus : '+'.isDigit = false := by decide
  unfold read?
  -- a plus is no digit, so a field has only one of the two forms
  split
  case h_1 rest =>
      rw [readDigits_eq_some_iff]
      refine ⟨.signed, fun hwritten => ?_⟩
      cases hwritten with
      | plain hnumeral => exact absurd rfl (hnumeral.head?_ne hplus)
      | signed hnumeral => exact hnumeral
  case h_2 hunsigned =>
      rw [readDigits_eq_some_iff]
      refine ⟨.plain, fun hwritten => ?_⟩
      cases hwritten with
      | plain hnumeral => exact hnumeral
      | signed _ => exact absurd rfl (hunsigned _)

end Count

/-! ## Words -/

/-- The first three words of a text, among blanks. -/
inductive Text.FirstThree (text first second third : List Char) : Prop
  | intro {before₁ before₂ before₃ rest₁ rest₂ rest₃ : List Char}
    (hfirst : FirstField text before₁ first rest₁)
    (hsecond : FirstField rest₁ before₂ second rest₂)
    (hthird : FirstField rest₂ before₃ third rest₃) : FirstThree text first second third

theorem Text.firstThree_iff {text first second third : List Char} :
    FirstThree text first second third ↔
      ∃ later, fields text = first :: second :: third :: later := by
  constructor
  · rintro ⟨hfirst, hsecond, hthird⟩
    exact ⟨_, by rw [hfirst.fields_eq, hsecond.fields_eq, hthird.fields_eq]⟩
  · rintro ⟨later, hfields⟩
    obtain ⟨_, rest₁, hfirst, hfields₁⟩ := exists_firstField hfields
    obtain ⟨_, rest₂, hsecond, hfields₂⟩ := exists_firstField hfields₁
    obtain ⟨_, _, hthird, -⟩ := exists_firstField hfields₂
    exact .intro hfirst hsecond hthird

/-! ## Lines -/

namespace Line

/-- The path of a location goes up to the first colon, or to the end if there is no colon. -/
def IsPathOf (path : String) (location : List Char) : Prop :=
  ∃ span, location = path.toList ++ span ∧ ':' ∉ path.toList ∧ ∀ c ∈ span.head?, c = ':'

/-- The line of a record. -/
inductive Grammar (text : List Char) (record : Record) : Prop
  | intro {location statements executions : List Char} (hheader : ¬ headerMark <+: text)
    (hwords : Text.FirstThree text location statements executions)
    (hpath : IsPathOf record.path location)
    (hstatements : record.statements.WrittenAs statements)
    (hexecutions : record.executions.WrittenAs executions) : Grammar text record

variable {path : String} {location statements executions : List Char} {record : Record}

theorem pathOf_eq_iff : pathOf location = path ↔ IsPathOf path location := by
  constructor
  · rintro rfl
    refine ⟨location.dropWhile (· ≠ ':'), ?_, ?_, ?_⟩
    · rw [pathOf, String.toList_ofList, List.takeWhile_append_dropWhile]
    · rw [pathOf, String.toList_ofList]
      intro hcolon
      simpa using List.all_eq_true.mp List.all_takeWhile _ hcolon
    · intro c hc
      have hhead := List.head?_dropWhile_not (· ≠ ':') location
      rw [Option.mem_def.mp hc] at hhead
      simpa using hhead
  · rintro ⟨span, rfl, hcolon, hspan⟩
    have hpath : ∀ c ∈ path.toList, decide (c ≠ ':') = true := by
      intro c hc
      rw [decide_eq_true_eq]
      rintro rfl
      exact hcolon hc
    -- what follows the path is nothing or starts with the colon
    have hstop : span.takeWhile (· ≠ ':') = [] := by
      cases span with
      | nil => rfl
      | cons c later => simp [hspan c rfl]
    rw [pathOf, List.takeWhile_append_of_pos hpath, hstop, List.append_nil, String.ofList_toList]

theorem record?_ofFields_eq_some_iff :
    (ofFields location statements executions).record? = some record ↔
      IsPathOf record.path location ∧ record.statements.WrittenAs statements ∧
        record.executions.WrittenAs executions := by
  rw [← pathOf_eq_iff, ← Count.read?_eq_some_iff, ← Count.read?_eq_some_iff]
  unfold ofFields
  cases Count.read? statements with
  | none => simp [record?]
  | some statementCount =>
      cases Count.read? executions with
      | none => simp [record?]
      | some executionCount =>
          obtain ⟨path, statementCount', executionCount'⟩ := record
          simp [record?]

/-- Only the first three words of a line that is no header decide on its record. -/
theorem record?_read_of_firstThree {text : String} (hheader : ¬ headerMark <+: text.toList)
    (hwords : Text.FirstThree text.toList location statements executions) :
    (read text).record? = (ofFields location statements executions).record? := by
  obtain ⟨later, hfields⟩ := Text.firstThree_iff.mp hwords
  have hnone : headerMark.isPrefixOf text.toList = false := by
    rwa [Bool.eq_false_iff, Ne, List.isPrefixOf_iff_prefix]
  rw [read, hnone, hfields]
  rfl

private theorem exists_firstThree_of_record? {text : String}
    (hrecord : (read text).record? = some record) :
    ¬ headerMark <+: text.toList ∧
      ∃ location statements executions,
        Text.FirstThree text.toList location statements executions := by
  unfold read at hrecord
  split at hrecord
  case isTrue => cases hrecord
  case isFalse hheader =>
      rw [List.isPrefixOf_iff_prefix] at hheader
      refine ⟨hheader, ?_⟩
      split at hrecord
      case h_1 => cases hrecord
      case h_2 hfields => exact ⟨_, _, _, Text.firstThree_iff.mpr ⟨_, hfields⟩⟩
      case h_3 => cases hrecord

theorem record?_read_eq_some_iff {text : String} :
    (read text).record? = some record ↔ Grammar text.toList record := by
  constructor
  · intro hrecord
    obtain ⟨hheader, _, _, _, hwords⟩ := exists_firstThree_of_record? hrecord
    rw [record?_read_of_firstThree hheader hwords, record?_ofFields_eq_some_iff] at hrecord
    obtain ⟨hpath, hstatements, hexecutions⟩ := hrecord
    exact .intro hheader hwords hpath hstatements hexecutions
  · rintro ⟨hheader, hwords, hpath, hstatements, hexecutions⟩
    rw [record?_read_of_firstThree hheader hwords, record?_ofFields_eq_some_iff]
    exact ⟨hpath, hstatements, hexecutions⟩

/-- **A line has a record just when the grammar says so**, and it is the record of the grammar.
Blanks in front of, between and behind the words and all further words are of no account: two
lines that start with the same three words, or with fewer than three, have the same record or
none, unless one of them is a header. -/
theorem record?_read_exact :
    (∀ (text : String) (record : Record),
      (read text).record? = some record ↔ Grammar text.toList record) ∧
    ∀ first second : String, ¬ headerMark <+: first.toList → ¬ headerMark <+: second.toList →
      (∀ location statements executions,
        Text.FirstThree first.toList location statements executions ↔
          Text.FirstThree second.toList location statements executions) →
      (read first).record? = (read second).record? := by
  constructor
  · intro text record
    exact record?_read_eq_some_iff
  · intro first second hfirst hsecond hwords
    ext record
    rw [record?_read_eq_some_iff, record?_read_eq_some_iff]
    constructor
    · rintro ⟨-, hthree, hpath, hstatements, hexecutions⟩
      exact .intro hsecond ((hwords _ _ _).mp hthree) hpath hstatements hexecutions
    · rintro ⟨-, hthree, hpath, hstatements, hexecutions⟩
      exact .intro hfirst ((hwords _ _ _).mpr hthree) hpath hstatements hexecutions

example : (read "\u00a0a.go:1:2 +007\t\t18446744073709551615 -1").record? =
    some ⟨"a.go", .clamp 7, .clamp Count.limit⟩ := by decide +kernel

example : (read "a.go ++7 1").record? = none := by decide +kernel

end Line

end PackageCoverage
