import PackageCoverage.Text.Ranges

/-!
# Fields between blanks

A blank is a character with the Unicode property `White_Space`.  The fields of a
text are its maximal runs of other characters.  They are gathered from the right:
a character that is no blank joins the field in front of which it stands, and a
blank closes that field.

The two laws at the end determine `fields`: a blank in front changes nothing, and
a run of other characters that a blank or the end follows is the first field.
-/

namespace PackageCoverage.Text

/-- The code points with the property `White_Space`. -/
def blanks : Ranges :=
  [(0x9, 0xD), (0x20, 0x20), (0x85, 0x85), (0xA0, 0xA0), (0x1680, 0x1680), (0x2000, 0x200A),
    (0x2028, 0x2029), (0x202F, 0x202F), (0x205F, 0x205F), (0x3000, 0x3000)]

/-- Whether a character is a blank. -/
def isBlank (c : Char) : Bool := blanks.contains c

/-- A text without the blanks around it. -/
def trimmed (text : List Char) : List Char :=
  ((text.dropWhile isBlank).reverse.dropWhile isBlank).reverse

/-- A field and those behind it; a field without characters is none. -/
def closeField (field : List Char) (later : List (List Char)) : List (List Char) :=
  if field.isEmpty then later else field :: later

/-- One character in front of an open field and the fields behind it. -/
def extendField (c : Char) : List Char × List (List Char) → List Char × List (List Char)
  | (field, later) => if isBlank c then ([], closeField field later) else (c :: field, later)

/-- The fields of a text, in order. -/
def fields (text : List Char) : List (List Char) :=
  let (field, later) := text.foldr extendField ([], [])
  closeField field later

/-! ## Laws -/

@[simp] theorem fields_nil : fields [] = [] := rfl

theorem fields_blank_cons {c : Char} (hblank : isBlank c = true) (text : List Char) :
    fields (c :: text) = fields text := by
  simp [fields, extendField, hblank, closeField]

private theorem foldr_extendField_append {field : List Char}
    (hfield : ∀ c ∈ field, isBlank c = false) (state : List Char × List (List Char)) :
    field.foldr extendField state = (field ++ state.1, state.2) := by
  induction field with
  | nil => rfl
  | cons c rest ih =>
      have hrest := ih fun d hd => hfield d (List.mem_cons_of_mem c hd)
      have hc := hfield c List.mem_cons_self
      simp [hrest, extendField, hc]

/-- A run of characters that a blank or the end follows is the first field. -/
theorem fields_append {field text : List Char} (hfield : ∀ c ∈ field, isBlank c = false)
    (hne : field ≠ []) (htext : ∀ c ∈ text.head?, isBlank c = true) :
    fields (field ++ text) = field :: fields text := by
  cases text with
  | nil => simp [fields, foldr_extendField_append hfield, closeField, hne]
  | cons c rest =>
      have hc : isBlank c = true := htext c rfl
      simp [fields, foldr_extendField_append hfield, extendField, hc, closeField, hne]

end PackageCoverage.Text
