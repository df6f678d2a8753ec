/-!
# Cutting texts at offsets

Places in a text are told by how many bytes of its UTF-8 form stand in front.  A
place inside of a character counts as the place behind it.
-/

namespace PackageCoverage.Text

/-- How many bytes a text takes. -/
def size : List Char → Nat
  | [] => 0
  | c :: rest => c.utf8Size + size rest

/-- The first so many bytes of a text. -/
def within : Nat → List Char → List Char
  | 0, _ => []
  | _, [] => []
  | bytes + 1, c :: rest => c :: within (bytes + 1 - c.utf8Size) rest

/-- What is behind the first so many bytes of a text. -/
def behind : Nat → List Char → List Char
  | 0, text => text
  | _, [] => []
  | bytes + 1, c :: rest => behind (bytes + 1 - c.utf8Size) rest

end PackageCoverage.Text
