import PackageCoverage.Pattern.Atom

/-!
# Sets of characters

A set stands between brackets.  Its members are characters, ranges, atoms for more
than one character, and sets, some of which have a name; a sign in front makes it
the set of all others.  Sets are joined by `&&`, `--` and `~~`, from the left.

Where bytes are meant, there is no set of all others: it would hold bytes of which
no character consists alone.  All that is kept of a set is how deep its parts lie.
-/

namespace PackageCoverage.Pattern

open Reader

/-- How deep parts lie in a whole.  A part that is alone lies no deeper there. -/
def nested : List Nat → Nat
  | [] => 0
  | [depth] => depth
  | depths => depths.foldr max 0 + 1

namespace CharacterSet

/-- Refuses a set of all others where bytes are meant. -/
def accept (isNegated : Bool) : PatternReader Unit := do
  if isNegated && (← currentMode).isBytewise then failure

/-- A sign that joins two sets. -/
def joint : Reader Unit := word "&&" <|> word "--" <|> word "~~"

/-- The sets with a name. -/
def names : List String :=
  ["alnum", "alpha", "ascii", "blank", "cntrl", "digit", "graph", "lower", "print", "punct",
    "space", "upper", "word", "xdigit"]

/-- A set with a name; whether all other characters are meant. -/
def named : Reader Bool := do
  word "[:"
  let isNegated ← didRead (char '^')
  discard (thatIs (names.contains <| String.ofList ·) (run (· ≠ ':')))
  word ":]"
  return isNegated

/-- The character behind a dash.  Blanks may stand between, and one `#` among them. -/
def behindDash? (mode : Mode) (text : List Char) : Option Char :=
  if mode.isSpaced then
    match text.dropWhile Text.isBlank with
    | '#' :: comment => (comment.dropWhile Text.isBlank).head?
    | text => text.head?
  else text.head?

/-- Whether a text starts with a dash between the ends of a range. -/
def startsWithDash (mode : Mode) : List Char → Bool
  | '-' :: text => !(behindDash? mode text).any fun c => c = ']' || c = '-'
  | _ => false

/-- A range or one atom. -/
def range : PatternReader Unit := do
  let first ← Atom.readMember
  blanks
  let mode ← currentMode
  if startsWithDash mode (← rest) then
    discard anyChar
    blanks
    if !first.isRange mode (← Atom.readMember) then failure
  else if !first.isMember mode then failure

/-- How deep the parts of a member lie, where the given reader reads sets in brackets. -/
def member (bracketed : PatternReader Nat) : PatternReader Nat := do
  blanks
  if ← isAhead (discard (char ']') <|> joint) then failure
  else if ← isAhead named then
    accept (← named)
    return 0
  else if ← isAhead (char '[') then bracketed
  else
    range
    return 0

/-- What stands for itself only at the start of a set, dashes or else a bracket; how
many characters that is. -/
def leading : PatternReader Nat := do
  let dashes ← many (char '-' *> blanks)
  if dashes.isEmpty then
    return if ← didRead (char ']' *> blanks) then 1 else 0
  else return dashes.length

/-- How deep the parts of a set in brackets lie, in which sets lie at most so deep. -/
def bracketed : Nat → PatternReader Nat
  | 0 => failure
  | limit + 1 => do
    discard (char '[')
    blanks
    let isNegated ← didRead (char '^' *> blanks)
    let start := List.replicate (← leading) 0
    let first := nested (start ++ (← many (member (bracketed limit))))
    let others ← many do
      blanks
      liftM joint
      return nested (← many (member (bracketed limit)))
    blanks
    discard (char ']')
    accept isNegated
    return others.foldl (fun depth other => max depth other + 1) first + 1

end CharacterSet

end PackageCoverage.Pattern
