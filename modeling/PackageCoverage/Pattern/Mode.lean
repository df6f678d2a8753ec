import PackageCoverage.Text.Fields
import PackageCoverage.Text.Reader

/-!
# How patterns are read

A pattern says which texts are meant.  Signs in it change how the rest is read, and
its groups may have names, each of which can be given once: both are carried along
while a pattern is read.

Patterns come from between braces, and so none holds a closing brace.  What needs
one, such as a number of repetitions, is left out here: it would fail to close.
-/

namespace PackageCoverage.Pattern

/-- What changes how a pattern is read. -/
structure Mode where
  /-- Whether blanks, and what stands behind `#` on a line, are passed over. -/
  isSpaced : Bool := false
  /-- Whether bytes are meant where a character is not written out. -/
  isBytewise : Bool := false

/-- The mode after signs; a dash is in front of those that end what they stand for. -/
def Mode.after (mode : Mode) (signs : List Char) : Mode :=
  let started := signs.takeWhile (· ≠ '-')
  let ended := signs.dropWhile (· ≠ '-')
  { isSpaced := (mode.isSpaced || started.contains 'x') && !ended.contains 'x'
    isBytewise := (mode.isBytewise || ended.contains 'u') && !started.contains 'u' }

/-- What is carried along. -/
structure Context where
  mode : Mode := {}
  names : List String := []

/-- A reader of values from the front of a pattern. -/
abbrev PatternReader (α : Type) := StateT Context Reader α

/-- The mode in which the rest is read. -/
def currentMode : PatternReader Mode := return (← get).mode

/-- Lets the rest be read in a mode. -/
def setMode (mode : Mode) : PatternReader Unit :=
  modify fun context => { context with mode := mode }

/-! ## Blanks and comments -/

/-- What is left of a text behind blanks and comments. -/
def behindBlanks : (inComment : Bool) → List Char → List Char
  | _, [] => []
  | true, c :: rest => behindBlanks (c ≠ '\n') rest
  | false, c :: rest =>
    if Text.isBlank c then behindBlanks false rest
    else if c = '#' then behindBlanks true rest
    else c :: rest

/-- Passes over blanks and comments if the mode says so. -/
def blanks : PatternReader Unit := do
  if (← currentMode).isSpaced then
    liftM (modify (behindBlanks false) : Reader Unit)

end PackageCoverage.Pattern
