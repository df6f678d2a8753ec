/-!
# Readers

A reader takes a piece off the front of a text, or fails.  Readers are chained
with `do`, and `first <|> second` lets the second try at the same place when the
first fails.  Readers that keep a state besides the text are made from these, and
so repetition is stated for all of them.
-/

namespace PackageCoverage

/-- A reader of values from the front of a text. -/
abbrev Reader (α : Type) := StateT (List Char) Option α

namespace Reader

variable {α β : Type} {m : Type → Type} [Monad m] [MonadExceptOf Unit m]

/-! ## Pieces -/

/-- What is left of the text, of which nothing is taken. -/
def rest : Reader (List Char) := fun text => some (text, text)

/-- The next character, if it is one of those wanted. -/
def charIf (wanted : Char → Bool) : Reader Char
  | c :: rest => if wanted c then some (c, rest) else none
  | [] => none

/-- A given character. -/
def char (c : Char) : Reader Char := charIf (· = c)

/-- The next character. -/
def anyChar : Reader Char := charIf fun _ => true

/-- A given word. -/
def word (word : String) : Reader Unit := fun text =>
  if word.toList.isPrefixOf text then some ((), text.drop word.length) else none

/-- The longest run of characters that are wanted, which may be empty. -/
def run (wanted : Char → Bool) : Reader (List Char) := fun text =>
  some (text.takeWhile wanted, text.dropWhile wanted)

/-- The longest run of characters that are wanted, at least one. -/
def run1 (wanted : Char → Bool) : Reader (List Char) := do
  let first ← charIf wanted
  return first :: (← run wanted)

/-- The end of the text. -/
def atEnd : Reader Unit := fun text => if text.isEmpty then some ((), []) else none

/-- Whether a value could be read; nothing is taken. -/
def isAhead (reader : Reader α) : Reader Bool := fun text => some ((reader text).isSome, text)

/-! ## Repetition and conditions -/

/-- Whether a value was read; if not, nothing is taken. -/
def didRead (reader : m α) : m Bool := (reader *> pure true) <|> pure false

/-- Exactly so many values. -/
def exactly (reader : m α) : Nat → m (List α)
  | 0 => pure []
  | count + 1 => do
    let first ← reader
    return first :: (← exactly reader count)

/-- As many values as there are, but no more than a text has characters. -/
def manyWithin (reader : m α) : (text : List Char) → m (List α)
  | [] => pure []
  | _ :: text =>
    (do
      let first ← reader
      return first :: (← manyWithin reader text))
    <|> pure []

/-- As many values as there are.  Each takes something off the text, so there are no
more of them than characters. -/
def many [MonadLiftT (StateT (List Char) Option) m] (reader : m α) : m (List α) := do
  manyWithin reader (← liftM rest)

/-- At least one value, with separators between them.  A separator that no value
follows is left. -/
def separated (reader : Reader α) (separator : Reader β) : Reader (List α) := do
  let first ← reader
  return first :: (← many (separator *> reader))

/-- A value for which a condition holds. -/
def thatIs (condition : α → Bool) (reader : Reader α) : Reader α := do
  let value ← reader
  if condition value then return value else failure

/-- The value read from a whole text. -/
def wholly (reader : Reader α) (text : List Char) : Option α :=
  (StateT.run (reader <* atEnd) text).map Prod.fst

end Reader

end PackageCoverage
