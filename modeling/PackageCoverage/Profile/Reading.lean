import PackageCoverage.Profile.Line

/-!
# Reading a profile

A profile is a sequence of bytes.  Its lines end at line feeds, and a carriage
return in front of a line feed belongs to the end of the line.  Bytes after the
last line feed are one more line, carriage return and all.

Each line is text in UTF-8 of its own, so a line that is not leaves the others
readable.  `items` reads on behind such a line; a `Reading` stops in front of
the first one.
-/

namespace PackageCoverage.Profile

/-! ## Lines -/

/-- The byte that ends a line. -/
def lineFeed : UInt8 := 10

/-- The byte that may stand in front of the one that ends a line. -/
def carriageReturn : UInt8 := 13

/-- One byte in front of bytes that are already divided at their line feeds. -/
def consPiece (byte : UInt8) (pieces : List (List UInt8)) : List (List UInt8) :=
  if byte = lineFeed then [] :: pieces
  else
    match pieces with
    | [] => [[byte]]
    | piece :: later => (byte :: piece) :: later

/-- The bytes between line feeds: one piece more than there are line feeds. -/
def pieces (bytes : List UInt8) : List (List UInt8) := bytes.foldr consPiece [[]]

/-- A piece without the carriage return at its end, if it has one. -/
def dropReturn (piece : List UInt8) : List UInt8 :=
  if piece.getLast? = some carriageReturn then piece.dropLast else piece

/-- The lines of a profile. -/
def lines (bytes : List UInt8) : List (List UInt8) :=
  (pieces bytes).dropLast.map dropReturn ++ (pieces bytes).getLast?.toList.filter (· ≠ [])

/-- The bytes up to the last line feed: the lines of them all have their ends. -/
def wholeLines (bytes : List UInt8) : List UInt8 :=
  (bytes.reverse.dropWhile (· ≠ lineFeed)).reverse

/-! ## Items -/

/-- The text of a line, if the bytes are UTF-8. -/
def decode? (line : List UInt8) : Option String := String.fromUTF8? line.toByteArray

/-- What reading a line that is not skipped comes to. -/
inductive Item where
  | record (record : Record)
  | unreadable
deriving DecidableEq

/-- The item of a line, if the line is not skipped. -/
def item? (line : List UInt8) : Option Item :=
  match decode? line with
  | none => some .unreadable
  | some text => (Line.read text).record?.map .record

/-- All items of a profile, in order. -/
def items (bytes : List UInt8) : List Item := (lines bytes).filterMap item?

/-! ## Reading up to the first unreadable line -/

/-- The texts of the lines of a profile in front of its first unreadable line, which are
`complete` if there is no such line. -/
structure Reading where
  texts : List String
  complete : Bool
deriving DecidableEq

/-- Reads lines up to the first unreadable one. -/
def read (bytes : List UInt8) : Reading :=
  let texts := (lines bytes).map decode?
  ⟨(texts.takeWhile Option.isSome).filterMap id, texts.all Option.isSome⟩

/-- The records that were read. -/
def Reading.records (reading : Reading) : List Record :=
  reading.texts.filterMap fun text => (Line.read text).record?

/-- The lines that were skipped for a fault, with the fault. -/
def Reading.faults (reading : Reading) : List (Line.Fault × String) :=
  reading.texts.filterMap fun text => (Line.read text).fault?.map (·, text)

end PackageCoverage.Profile
