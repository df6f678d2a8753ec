import PackageCoverage.Text.Hexadecimal
import PackageCoverage.Text.Reader

/-!
# Blanks and strings

Strings stand between quotes of one of two kinds.  Between double quotes a
backslash starts an escape; between single quotes all characters stand for
themselves.  Three quotes in place of one allow line ends in the string, and then
one or two quotes in a row are part of it.
-/

namespace PackageCoverage.Toml

open Reader

/-! ## Between the values -/

/-- Whether a character is a blank within a line. -/
def isBlank (c : Char) : Bool := c = ' ' || c = '\t'

/-- Whether a character may stand in a comment; the control characters may not,
the tab excepted. -/
def isPrintable (c : Char) : Bool := c = '\t' || (' ' ≤ c && c ≠ '\x7f')

/-- Blanks within a line, if any. -/
def blanks : Reader Unit := discard (run isBlank)

/-- A line end with or without a carriage return. -/
def newline : Reader Unit := discard (optional (char '\r') *> char '\n')

/-- A number sign and the rest of the line. -/
def comment : Reader Unit := discard (char '#' *> run isPrintable)

/-- Blanks, line ends and comments, if any. -/
def gap : Reader Unit := discard (many (discard (charIf isBlank) <|> newline <|> comment))

/-- What may follow a value or a header on its line, and the end of the line. -/
def lineEnd : Reader Unit := do
  blanks
  discard (optional comment)
  newline <|> atEnd

/-! ## Escapes -/

/-- A character by its number in so many hexadecimal digits. -/
def numbered (digits : Nat) : Reader Char := do
  StateT.lift (Text.charOfHex? (← exactly (charIf Text.isHexDigit) digits))

/-- A backslash and what it stands for. -/
def escape : Reader Char := do
  discard (char '\\')
  match ← anyChar with
  | 'b' => return '\x08'
  | 't' => return '\t'
  | 'n' => return '\n'
  | 'f' => return '\x0c'
  | 'r' => return '\r'
  | '"' => return '"'
  | '\\' => return '\\'
  | 'u' => numbered 4
  | 'U' => numbered 8
  | _ => failure

/-! ## Strings on one line -/

/-- A character of a string between double quotes that is no escape. -/
def plainChar : Reader Char := charIf fun c => isPrintable c && c ≠ '"' && c ≠ '\\'

/-- A character of a string between single quotes. -/
def literalChar : Reader Char := charIf fun c => isPrintable c && c ≠ '\''

/-- A string between double quotes. -/
def basicString : Reader (List Char) :=
  char '"' *> many (plainChar <|> escape) <* char '"'

/-- A string between single quotes. -/
def literalString : Reader (List Char) :=
  char '\'' *> many literalChar <* char '\''

/-! ## Strings on several lines -/

/-- All quotes at this place, as many of them as wanted. -/
def quotes (quote : Char) (wanted : Nat → Bool) : Reader Nat :=
  List.length <$> thatIs (fun quotes => wanted quotes.length) (run (· = quote))

/-- One or two quotes within a string. -/
def innerQuotes (quote : Char) : Reader (List Char) := do
  let count ← quotes quote fun count => 1 ≤ count && count ≤ 2
  return List.replicate count quote

/-- A backslash at the end of a line, with all blanks and line ends behind it;
nothing of it is part of the string. -/
def continuation : Reader Unit := do
  discard (char '\\')
  blanks
  newline
  discard (many (discard (charIf isBlank) <|> newline))

/-- Three quotes, pieces of a string, and three quotes.  A line end right behind
the first three is not part of the string, but up to two quotes in front of the
last three are. -/
def multiline (quote : Char) (piece : Reader (List Char)) : Reader (List Char) := do
  discard (exactly (char quote) 3)
  discard (optional newline)
  let pieces ← many (piece <|> newline *> pure ['\n'] <|> innerQuotes quote)
  let count ← quotes quote fun count => 3 ≤ count && count ≤ 5
  return pieces.flatten ++ List.replicate (count - 3) quote

/-- A string on several lines between double quotes. -/
def multilineBasicString : Reader (List Char) :=
  multiline '"' ((List.singleton <$> plainChar) <|> (continuation *> pure [])
    <|> (List.singleton <$> escape))

/-- A string on several lines between single quotes. -/
def multilineLiteralString : Reader (List Char) :=
  multiline '\'' (List.singleton <$> literalChar)

/-- A string of any kind. -/
def anyString : Reader String :=
  String.ofList <$>
    (multilineBasicString <|> basicString <|> multilineLiteralString <|> literalString)

end PackageCoverage.Toml
