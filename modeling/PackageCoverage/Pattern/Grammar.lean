import PackageCoverage.Pattern.CharacterSet
import PackageCoverage.Text.Alphanumeric

/-!
# Patterns

A pattern offers choices, separated by bars.  Each is a sequence of parts: atoms,
sets, groups in parentheses, and signs in parentheses, which change how the rest
of the group is read.  All but signs may be repeated.

A text is a pattern if nothing is left of it and nothing in it lies too deep.
-/

namespace PackageCoverage.Pattern

open Reader

/-- How deep the parts of a pattern may lie. -/
def depthLimit : Nat := 250

/-! ## Signs and names -/

/-- Signs, each at most once and the last no dash. -/
def signs : Reader (List Char) :=
  thatIs
    (fun signs =>
      signs.all ("imsURux-".contains ·) && decide signs.Nodup && signs.getLast? ≠ some '-')
    (run fun c => c ≠ ':' && c ≠ ')')

/-- Signs that change how the rest of a group is read. -/
def directive : PatternReader Unit := do
  discard (char '(')
  blanks
  discard (char '?')
  let signs ← thatIs (!·.isEmpty) signs
  discard (char ')')
  setMode ((← currentMode).after signs)

/-- Whether a text may name a group. -/
def isName : List Char → Bool
  | [] => false
  | first :: rest =>
    (first = '_' || Text.isLetter first) &&
      rest.all fun c => "_.[]".contains c || Text.isAlphanumeric c

/-- A name that no other group has. -/
def name : PatternReader Unit := do
  let name ← thatIs isName (run (· ≠ '>'))
  discard (char '>')
  let name := String.ofList name
  if (← get).names.contains name then failure
  else modify fun context => { context with names := name :: context.names }

/-! ## Parts -/

/-- The start of a group: a name, or signs that count for it, or nothing more. -/
def groupStart : PatternReader Unit := do
  discard (char '(')
  blanks
  (do
      liftM (word "?P<" <|> word "?<")
      name)
    <|> (do
      discard (char '?')
      let signs ← signs
      discard (char ':')
      setMode ((← currentMode).after signs))
    <|> pure ()

/-- A group around what the given reader reads; behind it the mode is that before. -/
def group (inner : PatternReader Nat) : PatternReader Nat := do
  let mode ← currentMode
  groupStart
  let depth ← inner
  discard (char ')')
  setMode mode
  return depth + 1

/-- How often something is repeated, and whether as rarely as possible. -/
def repetition : Reader Unit := do
  discard (charIf ("?*+".contains ·))
  discard (didRead (char '?'))

/-- A part that is repeated any number of times. -/
def part (inner : PatternReader Nat) : PatternReader Nat := do
  let depth ← (do discard Atom.read; return 0)
    <|> CharacterSet.bracketed depthLimit
    <|> group inner
  let repetitions ← many (do blanks; repetition)
  return depth + repetitions.length

/-- Parts and signs one after the other. -/
def sequence (inner : PatternReader Nat) : PatternReader Nat := do
  let depths ← many do
    blanks
    (do directive; return 0) <|> part inner
  blanks
  return nested depths

/-- Sequences to choose from. -/
def choice (inner : PatternReader Nat) : PatternReader Nat := do
  let first ← sequence inner
  let others ← many do
    discard (char '|')
    sequence inner
  return nested (first :: others)

/-- How deep the parts of a pattern lie, in which groups lie less deep than given. -/
def depth : Nat → PatternReader Nat
  | 0 => failure
  | limit + 1 => choice (depth limit)

end Pattern

/-- Whether a text is a pattern. -/
def isPattern (text : List Char) : Bool :=
  (Reader.wholly (StateT.run' (Pattern.depth (Pattern.depthLimit + 1)) {}) text).any
    (decide <| · ≤ Pattern.depthLimit)

end PackageCoverage
