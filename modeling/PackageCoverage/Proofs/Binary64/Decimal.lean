import PackageCoverage.Binary64.Decimal
import PackageCoverage.Proofs.Text.Fields

/-!
# Texts of numbers

Whatever a number is, neither of its two texts is empty, and they are made of digits, a sign, a
point, and the words for numbers that have no digits (`Binary64.isNumeral_toOneDecimal`,
`Binary64.isNumeral_toShortest`).  So they are words (`Binary64.IsNumeral.isWord`).
-/

namespace PackageCoverage

open Text (IsWord)

namespace Binary64

/-! ## Numerals -/

/-- The characters that numbers are written with. -/
def isNumeralChar (c : Char) : Bool := c.isDigit || "NaN-inf.".toList.contains c

/-- A run of characters that numbers are written with. -/
structure IsNumeral (text : List Char) : Prop where
  ne_nil : text ≠ []
  all : text.all isNumeralChar = true

variable {text front back : List Char}

theorem isBlank_of_isNumeralChar {c : Char} (hc : isNumeralChar c = true) :
    Text.isBlank c = false := by
  have hwords : "NaN-inf.".toList.any Text.isBlank = false := by decide
  rcases Bool.or_eq_true_iff.mp hc with hdigit | hword
  · exact Text.isBlank_of_isDigit hdigit
  · rw [← Bool.not_eq_true]
    exact List.any_eq_false.mp hwords c (List.contains_iff_mem.mp hword)

theorem IsNumeral.isWord (hnumeral : IsNumeral text) : IsWord text :=
  ⟨hnumeral.ne_nil, fun c hc => isBlank_of_isNumeralChar (List.all_eq_true.mp hnumeral.all c hc)⟩

theorem IsNumeral.append (hfront : IsNumeral front) (hback : IsNumeral back) :
    IsNumeral (front ++ back) where
  ne_nil := List.append_ne_nil_of_left_ne_nil hfront.ne_nil back
  all := by rw [List.all_append, hfront.all, hback.all, Bool.and_self]

theorem isNumeral_digits {digits : List Char} (hne : digits ≠ [])
    (hdigits : ∀ c ∈ digits, c.isDigit = true) : IsNumeral digits :=
  ⟨hne, List.all_eq_true.mpr fun c hc => Bool.or_eq_true_iff.mpr (.inl (hdigits c hc))⟩

theorem isNumeral_toString (n : Nat) : IsNumeral (toString n).toList := by
  rw [Nat.toString_eq_ofList_toDigits, String.toList_ofList]
  refine isNumeral_digits Nat.toDigits_ne_nil ?_
  intro c hc
  exact Nat.isDigit_of_mem_toDigits (by decide) (by decide) hc

/-! ## The two texts -/

theorem isNumeral_toText {digits : Nat → String}
    (hdigits : ∀ magnitude, IsNumeral (digits magnitude).toList) (x : Binary64) :
    IsNumeral (x.toText digits).toList := by
  have hunsigned : IsNumeral (if x.isInfinite then "inf" else digits x.magnitude).toList := by
    split
    · exact ⟨by decide, by decide⟩
    · exact hdigits x.magnitude
  unfold toText
  split
  · exact ⟨by decide, by decide⟩
  -- a number has its sign in front of what is written without it
  · rw [String.toList_append]
    split
    · exact IsNumeral.append ⟨by decide, by decide⟩ hunsigned
    · exact hunsigned

private theorem isNumeral_pointed {whole fraction : String} (hwhole : IsNumeral whole.toList)
    (hfraction : IsNumeral fraction.toList) : IsNumeral (whole ++ "." ++ fraction).toList := by
  rw [String.toList_append, String.toList_append]
  exact (hwhole.append ⟨by decide, by decide⟩).append hfraction

theorem isNumeral_toOneDecimal (x : Binary64) : IsNumeral x.toOneDecimal.toList := by
  apply isNumeral_toText
  intro magnitude
  exact isNumeral_pointed (isNumeral_toString _) (isNumeral_toString _)

theorem isWord_toOneDecimal (x : Binary64) : IsWord x.toOneDecimal.toList :=
  (isNumeral_toOneDecimal x).isWord

/-- Zeros at the end of a fraction go, and those in front of its digits come. -/
private theorem isDigit_of_mem_fraction {digits : List Char} {places : Nat}
    (hdigits : ∀ c ∈ digits, c.isDigit = true) {c : Char}
    (hc : c ∈ ((List.replicate places '0' ++ digits).reverse.dropWhile (· == '0')).reverse) :
    c.isDigit = true := by
  have hmem := (List.dropWhile_sublist _).subset (List.mem_reverse.mp hc)
  rcases List.mem_append.mp (List.mem_reverse.mp hmem) with hzero | hdigit
  · rw [List.eq_of_mem_replicate hzero]
    decide
  · exact hdigits c hdigit

theorem Decimal.isNumeral_toText (decimal : Decimal) : IsNumeral decimal.toText.toList := by
  have hwhole := isNumeral_toString (decimal.num / decimal.den)
  have hdigits : ∀ c ∈ Nat.toDigits 10 (decimal.num % decimal.den), c.isDigit = true := by
    intro c hc
    exact Nat.isDigit_of_mem_toDigits (by decide) (by decide) hc
  unfold toText
  dsimp only
  split
  · exact hwhole
  case isFalse hne =>
      refine isNumeral_pointed hwhole ?_
      rw [String.toList_ofList]
      refine isNumeral_digits (by simpa using hne) ?_
      intro c hc
      exact isDigit_of_mem_fraction hdigits hc

theorem isNumeral_toShortest (x : Binary64) : IsNumeral x.toShortest.toList := by
  apply isNumeral_toText
  intro magnitude
  split
  · exact ⟨by decide, by decide⟩
  · exact (shortest magnitude).isNumeral_toText

end Binary64

end PackageCoverage
