import PackageCoverage.Profile.Reading

/-!
# Text around a separator

In UTF-8 a byte of a character in ASCII is never a part of another character.  So
bytes around such a byte are text as a whole just when they are text on either side
of it (`decode?_append_cons`), and the texts on the two sides are those around the
character in the text of the whole.
-/

namespace PackageCoverage.Profile

/-! ## What decoding tells -/

/-- Bytes decode to the text that they encode, and to nothing else. -/
theorem decode?_eq_some_iff {bytes : List UInt8} {text : String} :
    decode? bytes = some text ↔ text.toByteArray = bytes.toByteArray := by
  unfold decode? String.fromUTF8?
  split
  case isTrue hvalid =>
      rw [Option.some.injEq, ← String.toByteArray_inj]
      exact eq_comm
  case isFalse hvalid =>
      simp only [reduceCtorEq, false_iff]
      intro hbytes
      exact hvalid (hbytes ▸ text.isValidUTF8)

@[simp] theorem decode?_nil : decode? [] = some "" :=
  decode?_eq_some_iff.mpr rfl

/-! ## Characters in ASCII -/

/-- A byte in ASCII starts a character. -/
private theorem isUTF8FirstByte_of_utf8Size {c : Char} (hascii : c.utf8Size = 1) :
    c.val.toUInt8.IsUTF8FirstByte := by
  have hsingleton := String.utf8EncodeChar_eq_singleton hascii
  have hlength : 0 < (String.utf8EncodeChar c).length := by simp [hsingleton]
  have hfirst : (String.utf8EncodeChar c)[0].IsUTF8FirstByte :=
    UInt8.isUTF8FirstByte_getElem_utf8EncodeChar.mpr rfl
  simpa [hsingleton] using hfirst

private theorem toByteArray_cons {c : Char} (hascii : c.utf8Size = 1) (later : List UInt8) :
    (c.val.toUInt8 :: later).toByteArray = [c].utf8Encode ++ later.toByteArray := by
  rw [List.utf8Encode_singleton, String.utf8EncodeChar_eq_singleton hascii,
    ← List.toByteArray_append]
  rfl

/-- A text can be divided in front of every character in ASCII. -/
private theorem exists_append_of_toByteArray_eq {c : Char} (hascii : c.utf8Size = 1)
    {text : String} {front later : List UInt8}
    (htext : text.toByteArray = (front ++ c.val.toUInt8 :: later).toByteArray) :
    ∃ text₁ text₂ : String, text = text₁ ++ text₂ ∧ text₁.toByteArray = front.toByteArray ∧
      text₂.toByteArray = (c.val.toUInt8 :: later).toByteArray := by
  have hvalid : String.Pos.Raw.IsValid text ⟨front.length⟩ := by
    rw [String.Pos.Raw.isValid_iff_isUTF8FirstByte]
    refine Or.inr ⟨?_, ?_⟩
    · rw [String.Pos.Raw.lt_iff, String.byteIdx_rawEndPos, ← String.size_toByteArray, htext]
      simp
    · simp only [String.getUTF8Byte, htext, List.getElem_toByteArray]
      simpa using isUTF8FirstByte_of_utf8Size hascii
  -- a text can be cut wherever a byte starts a character
  obtain ⟨text₁, text₂, happend, hpos⟩ := String.Pos.Raw.isValid_iff_exists_append.mp hvalid
  have hbytes : text₁.toByteArray ++ text₂.toByteArray =
      front.toByteArray ++ (c.val.toUInt8 :: later).toByteArray := by
    rw [← String.toByteArray_append, ← happend, htext, List.toByteArray_append]
  have hsize : text₁.toByteArray.size = front.toByteArray.size := by
    simpa [eq_comm] using congrArg String.Pos.Raw.byteIdx hpos
  have hfront := ByteArray.append_inj_left hbytes hsize
  rw [hfront, ByteArray.append_right_inj] at hbytes
  exact ⟨text₁, text₂, happend, hfront, hbytes⟩

/-- Bytes around a character in ASCII are text if they are on both sides of it. -/
theorem decode?_append_cons {c : Char} (hascii : c.utf8Size = 1) (front later : List UInt8) :
    decode? (front ++ c.val.toUInt8 :: later) =
      (decode? front).bind fun text₁ =>
        (decode? later).map fun text₂ => text₁ ++ String.singleton c ++ text₂ := by
  ext text
  simp only [Option.bind_eq_some_iff, Option.map_eq_some_iff, decode?_eq_some_iff]
  constructor
  · intro htext
    obtain ⟨text₁, text₂, rfl, hfront, hlater⟩ := exists_append_of_toByteArray_eq hascii htext
    rw [toByteArray_cons hascii] at hlater
    -- what is behind the character is text, since it is the rest of one
    have hvalid : later.toByteArray.IsValidUTF8 :=
      ByteArray.isValidUTF8_utf8Encode_singleton_append_iff.mp (hlater ▸ text₂.isValidUTF8)
    refine ⟨text₁, hfront, String.fromUTF8 later.toByteArray hvalid, rfl, ?_⟩
    rw [String.append_assoc, ← String.toByteArray_inj, String.toByteArray_append,
      String.toByteArray_append, String.toByteArray_append, hlater, String.toByteArray_singleton]
    rfl
  · rintro ⟨text₁, hfront, text₂, hlater, rfl⟩
    rw [List.toByteArray_append, toByteArray_cons hascii, String.toByteArray_append,
      String.toByteArray_append, hfront, hlater, ByteArray.append_assoc,
      String.toByteArray_singleton]

end PackageCoverage.Profile
