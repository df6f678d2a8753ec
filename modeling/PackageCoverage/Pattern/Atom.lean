import PackageCoverage.Pattern.Mode
import PackageCoverage.Text.Hexadecimal

/-!
# The smallest parts of patterns

An atom stands for one character or for a place between two.  Most characters
stand for themselves; behind a backslash they stand for something else, or for
themselves if they otherwise would not.

Patterns are matched byte by byte.  So a place that is found by telling letters
from others is of use only where bytes are meant; and where they are, an atom may
not stand for bytes of which no character consists alone.
-/

namespace PackageCoverage.Pattern

open Reader

/-- One atom. -/
inductive Atom where
  /-- A given character, which may be written as the number of a byte. -/
  | character (c : Char) (asByte : Bool)
  /-- The digits, the blanks or the parts of words, or all others. -/
  | kind (negated : Bool)
  /-- The characters with a property. -/
  | property
  /-- Any character. -/
  | any
  /-- The start or the end of a line or a text. -/
  | border
  /-- The start or the end of a word, or all other places. -/
  | wordBorder

namespace Atom

/-- Whether an atom may stand outside of sets. -/
def isAllowed (mode : Mode) : Atom → Bool
  | character c asByte => !(mode.isBytewise && asByte && '\x7f' < c)
  | kind negated => !(mode.isBytewise && negated)
  | property | any => !mode.isBytewise
  | border => true
  | wordBorder => mode.isBytewise

/-- Whether an atom may stand in a set. -/
def isMember (mode : Mode) : Atom → Bool
  | character c _ => !(mode.isBytewise && '\x7f' < c)
  | kind negated => !(mode.isBytewise && negated)
  | property => !mode.isBytewise
  | any | border | wordBorder => false

/-- Whether two atoms are the ends of a range in a set. -/
def isRange (mode : Mode) : Atom → Atom → Bool
  | character first _, character last _ =>
    first ≤ last && !(mode.isBytewise && '\x7f' < last)
  | _, _ => false

/-! ## Reading -/

/-- The controls that have a letter. -/
def control? : Char → Option Char
  | 'a' => some '\x07'
  | 'f' => some '\x0c'
  | 't' => some '\t'
  | 'n' => some '\n'
  | 'r' => some '\r'
  | 'v' => some '\x0b'
  | _ => none

/-- The character with a number of so many hexadecimal digits. -/
def numbered (digits : Nat) : PatternReader Char := do
  match Text.charOfHex? (← exactly (blanks *> charIf Text.isHexDigit) digits) with
  | some c => return c
  | none => failure

/-- What stands behind a backslash. -/
def escaped : PatternReader Atom := do
  let c ← anyChar
  if let some control := control? c then return character control false
  else if c = 'x' then return character (← numbered 2) true
  else if c = 'u' then return character (← numbered 4) false
  else if c = 'U' then return character (← numbered 8) false
  else if c = 'p' || c = 'P' then
    blanks
    discard (charIf fun letter => "CLMNPSZ".contains letter.toUpper)
    return property
  else if "dsw".contains c then return kind false
  else if "DSW".contains c then return kind true
  else if "Az".contains c then return border
  else if "bB<>".contains c then return wordBorder
  else if c.isAlphanum || '\x7f' < c then failure
  else return character c false

/-- An atom outside of sets. -/
def read : PatternReader Atom := do
  let atom ← match ← charIf (!"()|[?*+\x7b".contains ·) with
    | '\\' => escaped
    | '.' => pure any
    | '^' | '$' => pure border
    | c => pure (character c false)
  if atom.isAllowed (← currentMode) then return atom else failure

/-- An atom in a set. -/
def readMember : PatternReader Atom := do
  match ← anyChar with
  | '\\' => escaped
  | c => return character c false

end Atom

end PackageCoverage.Pattern
