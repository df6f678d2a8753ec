import PackageCoverage.Profile.Writing

/-!
# The order of texts and of their bytes

Texts are compared character by character.  In UTF-8 the bytes of a character tell how it
compares with another one at the first place where they differ: the leading byte grows with the
number of bytes, and behind it the bytes are the digits of the character.  So texts compare as
their bytes do (`lt_iff_encode_lt`).
-/

namespace PackageCoverage.Text

open Profile (encode)

private theorem cons_ofNat_lt_iff {m n : Nat} (hm : m < 256) (hn : n < 256)
    (front later : List UInt8) :
    UInt8.ofNat m :: front < UInt8.ofNat n :: later ↔ m < n ∨ m = n ∧ front < later := by
  rw [List.cons_lt_cons_iff, UInt8.lt_iff_toNat_lt, ← UInt8.toNat_inj, UInt8.toNat_ofNat',
    UInt8.toNat_ofNat', Nat.mod_eq_of_lt hm, Nat.mod_eq_of_lt hn]

/-- Numbers compare as their digits do at the first place where they differ. -/
private theorem digits_lt {v w : Nat} (hlt : v < w) :
    v / 262144 < w / 262144 ∨ v / 262144 = w / 262144 ∧
      (v / 4096 % 64 < w / 4096 % 64 ∨ v / 4096 % 64 = w / 4096 % 64 ∧
        (v / 64 % 64 < w / 64 % 64 ∨ v / 64 % 64 = w / 64 % 64 ∧ v % 64 < w % 64)) := by
  have hplace : ∀ {m n : Nat}, m < n → m / 64 < n / 64 ∨ m / 64 = n / 64 ∧ m % 64 < n % 64 := by
    intro m n hmn
    omega
  have hsecond : ∀ n : Nat, n / 64 / 64 = n / 4096 := fun n => Nat.div_div_eq_div_mul n 64 64
  have hthird : ∀ n : Nat, n / 4096 / 64 = n / 262144 := fun n => Nat.div_div_eq_div_mul n 4096 64
  -- from the back to the front, the digits in one place differ or are the same
  rcases hplace hlt with hlt₁ | ⟨heq₁, hdigit⟩
  · rcases hplace hlt₁ with hlt₂ | ⟨heq₂, hdigit⟩
    · rw [hsecond, hsecond] at hlt₂
      rcases hplace hlt₂ with hlt₃ | ⟨heq₃, hdigit⟩
      · rw [hthird, hthird] at hlt₃
        exact .inl hlt₃
      · rw [hthird, hthird] at heq₃
        exact .inr ⟨heq₃, .inl hdigit⟩
    · rw [hsecond, hsecond] at heq₂
      refine .inr ⟨?_, .inr ⟨?_, .inl hdigit⟩⟩
      · rw [← hthird, ← hthird, heq₂]
      · rw [heq₂]
  · refine .inr ⟨?_, .inr ⟨?_, .inr ⟨?_, hdigit⟩⟩⟩
    · rw [← hthird, ← hthird, ← hsecond, ← hsecond, heq₁]
    · rw [← hsecond, ← hsecond, heq₁]
    · rw [heq₁]

/-- The bytes of an earlier character are less, whatever is behind them. -/
theorem utf8EncodeChar_append_lt {c d : Char} (hlt : c < d) (front later : List UInt8) :
    String.utf8EncodeChar c ++ front < String.utf8EncodeChar d ++ later := by
  have hvalues : c.val.toNat < d.val.toNat := hlt
  have hlast : d.val.toNat < 0x110000 := by
    rcases d.valid with hlow | hhigh
    · omega
    · exact hhigh.2
  unfold String.utf8EncodeChar
  generalize c.val.toNat = v at *
  generalize d.val.toNat = w at *
  dsimp only
  have hdigits := digits_lt hvalues
  have hlead₁ : v / 262144 % 8 = v / 262144 := Nat.mod_eq_of_lt (by omega)
  have hlead₂ : w / 262144 % 8 = w / 262144 := Nat.mod_eq_of_lt (by omega)
  -- one case for each pair of lengths
  repeat' split
  all_goals
    simp (disch := omega) only [List.cons_append, List.nil_append, cons_ofNat_lt_iff]
    omega

theorem flatMap_utf8EncodeChar_lt {first second : List Char} (hlt : first < second) :
    first.flatMap String.utf8EncodeChar < second.flatMap String.utf8EncodeChar := by
  induction hlt with
  | @nil c rest =>
      have hne := String.utf8EncodeChar_ne_nil (c := c)
      rw [List.flatMap_nil, List.flatMap_cons]
      cases hbytes : String.utf8EncodeChar c with
      | nil => exact absurd hbytes hne
      | cons byte later => exact List.nil_lt_cons _ _
  | @cons c rest₁ rest₂ _ ih =>
      rw [List.flatMap_cons, List.flatMap_cons]
      exact List.append_left_lt ih
  | @rel c rest₁ d rest₂ hlt =>
      rw [List.flatMap_cons, List.flatMap_cons]
      exact utf8EncodeChar_append_lt hlt _ _

theorem encode_eq_flatMap (text : String) :
    encode text = text.toList.flatMap String.utf8EncodeChar := by
  obtain ⟨characters, rfl⟩ : ∃ characters, text = .ofList characters :=
    ⟨text.toList, String.ofList_toList.symm⟩
  rw [encode, String.toUTF8, String.toByteArray_ofList, List.utf8Encode, String.toList_ofList]
  simp

/-- Texts are in the order of their bytes in UTF-8. -/
theorem lt_iff_encode_lt {first second : String} :
    first < second ↔ encode first < encode second := by
  have hmono : ∀ {first second : String}, first < second → encode first < encode second := by
    intro first second hlt
    rw [encode_eq_flatMap, encode_eq_flatMap]
    exact flatMap_utf8EncodeChar_lt (String.lt_iff.mp hlt)
  refine ⟨hmono, fun hbytes => ?_⟩
  -- otherwise the second text would be the first one or come before it
  rcases Std.lt_trichotomy first second with hlt | rfl | hgt
  · exact hlt
  · exact absurd hbytes (List.lt_irrefl _)
  · exact absurd (List.lt_trans hbytes (hmono hgt)) (List.lt_irrefl _)

end PackageCoverage.Text
