/-!
# Columns

A column has a width in characters, and a text that does not fill it is padded
with spaces on one side.  A text that is too long is kept whole and moves what
follows it.
-/

namespace PackageCoverage.Text

/-- The spaces that a text lacks to fill a column. -/
def spaces (width : Nat) (text : String) : String :=
  String.ofList (List.replicate (width - text.length) ' ')

/-- The text at the left of a column. -/
def padEnd (width : Nat) (text : String) : String := text ++ spaces width text

/-- The text at the right of a column. -/
def padStart (width : Nat) (text : String) : String := spaces width text ++ text

@[simp] theorem length_spaces (width : Nat) (text : String) :
    (spaces width text).length = width - text.length := by
  simp [spaces]

@[simp] theorem length_padEnd (width : Nat) (text : String) :
    (padEnd width text).length = max width text.length := by
  simp only [padEnd, String.length_append, length_spaces]
  omega

@[simp] theorem length_padStart (width : Nat) (text : String) :
    (padStart width text).length = max width text.length := by
  simp only [padStart, String.length_append, length_spaces]
  omega

end PackageCoverage.Text
