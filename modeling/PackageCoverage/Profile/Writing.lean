import PackageCoverage.Profile.Line

/-!
# Writing a profile

The line of a block is its location, the path of the file and a colon in front, and then
the two counts in decimal digits, with a space before each.  Lines end with a line feed,
which may have a carriage return in front of it, and the last line may go without an end.
-/

namespace PackageCoverage

/-- The line of a record whose block is at a location in its file. -/
def Record.line (record : Record) (location : String) : String :=
  record.path ++ ":" ++ location ++ " " ++ toString record.statements ++ " " ++
    toString record.executions

namespace Profile

/-- The end of a line. -/
inductive LineEnd where
  | feed
  | returnFeed
deriving DecidableEq

def LineEnd.text : LineEnd → String
  | feed => "\n"
  | returnFeed => "\r\n"

/-- A text has the given lines. -/
inductive Written : List String → String → Prop
  | empty : Written [] ""
  | unended (line : String) : Written [line] line
  | ended {later : List String} {text : String} (line : String) (lineEnd : LineEnd)
    (hlater : Written later text) : Written (line :: later) (line ++ lineEnd.text ++ text)

/-- The bytes of a text in UTF-8. -/
def encode (text : String) : List UInt8 := text.toUTF8.data.toList

end Profile

end PackageCoverage
