import PackageCoverage.Toml.Numbers
import PackageCoverage.Toml.Value

/-!
# Documents

A document is read in two steps.  The first splits it into statements: headers
and keys with values, one a line.  The second carries the statements out one
after the other on a table that is empty at first.
-/

namespace PackageCoverage.Toml

open Reader

/-- How deep arrays and tables in braces may lie within one another, and how many
parts a dotted key may have. -/
def depthLimit : Nat := 79

/-! ## Keys and values -/

/-- One part of a dotted key. -/
def keyPart : Reader String :=
  String.ofList <$>
    (run1 (fun c => c.isAlphanum || c = '-' || c = '_') <|> basicString <|> literalString)

/-- A dotted key: the parts that lead to it, and its last part. -/
def dottedKey : Reader (List String × String) := do
  let parts ← separated (blanks *> keyPart <* blanks) (char '.')
  match parts.getLast? with
  | some last => if parts.length ≤ depthLimit then return (parts.dropLast, last) else failure
  | none => failure

/-- A key, an equals sign, and a value behind it. -/
def keyValue (value : Reader Value) : Reader ((List String × String) × Value) := do
  let key ← dottedKey
  discard (char '=')
  blanks
  return (key, ← value)

/-- An array of values, between which line ends and comments may stand. -/
def array (value : Reader Value) : Reader Value := do
  discard (char '[')
  let elements ← optional (separated (gap *> value <* gap) (char ',') <* optional (char ','))
  gap
  discard (char ']')
  return .array (elements.getD [])

/-- A table in braces, on one line and without a comma at the end. -/
def braces (value : Reader Value) : Reader Value := do
  discard (char '\x7b')
  let pairs ← optional (separated (keyValue value <* blanks) (char ','))
  blanks
  discard (char '\x7d')
  let entries ← StateT.lift <|
    (pairs.getD []).foldlM (fun entries ((way, key), value) =>
      Entries.addDotted key value way entries) []
  return .table .braces entries

/-- A value that holds no others. -/
def scalar : Reader Value :=
  (.string <$> anyString)
    <|> (dateTime *> pure .dateTime)
    <|> (.float <$> float)
    <|> (.integer <$> integer)
    <|> (word "true" *> pure (.boolean true))
    <|> (word "false" *> pure (.boolean false))

/-- A value in which others lie at most so deep. -/
def value : Nat → Reader Value
  | 0 => scalar
  | depth + 1 => scalar <|> array (value depth) <|> braces (value depth)

/-! ## Statements -/

/-- What a line of a document does. -/
inductive Statement where
  /-- Gives a table its header; the table holds the keys that follow. -/
  | table (way : List String) (key : String)
  /-- Adds a table to an array; the table holds the keys that follow. -/
  | element (way : List String) (key : String)
  /-- Gives a key its value. -/
  | entry (way : List String) (key : String) (value : Value)

/-- The header of an element of an array of tables. -/
def elementHeader : Reader Statement := do
  word "[["
  let (way, key) ← dottedKey
  word "]]"
  return .element way key

/-- The header of a table. -/
def tableHeader : Reader Statement := do
  discard (char '[')
  let (way, key) ← dottedKey
  discard (char ']')
  return .table way key

/-- A key and its value. -/
def entry : Reader Statement := do
  let ((way, key), value) ← keyValue (value depthLimit)
  return .entry way key value

/-- A line, which need not hold a statement. -/
def line : Reader (Option Statement) := do
  blanks
  (newline *> pure none) <|> (comment *> (newline <|> atEnd) *> pure none) <|> do
    let statement ← elementHeader <|> tableHeader <|> entry
    lineEnd
    return some statement

/-- The statements of a document, in front of which a byte order mark may stand. -/
def statements (text : List Char) : Option (List Statement) :=
  let text := match text with
    | '\ufeff' :: rest => rest
    | _ => text
  (wholly (many line <* blanks) text).map (·.filterMap id)

/-! ## Carrying them out -/

/-- A document so far, and the way to the table that holds the next keys. -/
structure Draft where
  entries : Entries
  way : List String

/-- Carries out one statement. -/
def Draft.apply (draft : Draft) : Statement → Option Draft
  | .table way key => do
    return ⟨← draft.entries.changeAt (Entries.openTable key) way, way ++ [key]⟩
  | .element way key => do
    return ⟨← draft.entries.changeAt (Entries.openElement key) way, way ++ [key]⟩
  | .entry way key value => do
    return { draft with
      entries := ← draft.entries.changeAt (Entries.addDotted key value way) draft.way }

/-- The table that a document writes, if it is well-formed. -/
def read? (text : String) : Option Entries := do
  let statements ← statements text.toList
  let draft ← statements.foldlM Draft.apply ⟨[], []⟩
  return draft.entries

end PackageCoverage.Toml
