/-!
# Text without control sequences

A terminal takes some characters as orders and shows the others.  The character
`1B` opens a sequence that goes on until a character ends it, and which one does
depends on the kind of the sequence:

| behind `1B` | kind | end |
| --- | --- | --- |
| `[` | command | one of `@` to `~` |
| `]` | title | the bell |
| `P` | device string | the byte `9C` behind one of `@` to `~` |
| `X`, `^`, `_` | message | the byte `9C` |
| any number of space to `/` | escape | one of `0` to `~` |

Another `1B` opens a new sequence, and the characters `18` and `1A` end each.
Layout is shown in an escape and in a command all the same, and what follows it is
shown too, up to the next character that is not; there the sequence goes on.
-/

namespace PackageCoverage.Text

/-- Whether a character lays a text out: a tab, a line end, a page end. -/
def isLayout (c : Char) : Bool := c = '\t' || c = '\n' || c = '\x0c' || c = '\r'

/-- Whether a terminal shows a character outside of sequences, or lays text out by it. -/
def isShown (c : Char) : Bool := isLayout c || decide (' ' ≤ c) && c ≠ '\x7f'

/-- Whether the byte `9C` is in the UTF-8 form of a character. -/
def holdsTerminator (c : Char) : Bool := (String.utf8EncodeChar c).contains 0x9C

/-- Where in a control sequence a text is. -/
inductive Sequence where
  | outside
  | escape
  | escapeBody
  | command
  | title
  | deviceHead
  | deviceBody
  | message
deriving DecidableEq

namespace Sequence

/-- Where the character behind `1B` leads. -/
def opened (c : Char) : Sequence :=
  if c = '[' then command
  else if c = ']' then title
  else if c = 'P' then deviceHead
  else if c = 'X' || c = '^' || c = '_' then message
  else if ' ' ≤ c && c ≤ '/' then escapeBody
  else if '0' ≤ c && c ≤ '~' then outside
  else escape

/-- Where a character leads. -/
def next (sequence : Sequence) (c : Char) : Sequence :=
  if c = '\x1b' then escape
  else if c = '\x18' || c = '\x1a' then outside
  else
    match sequence with
    | outside => outside
    | escape => opened c
    | escapeBody => if '0' ≤ c && c ≤ '~' then outside else escapeBody
    | command => if '@' ≤ c && c ≤ '~' then outside else command
    | title => if c = '\x07' then outside else title
    | deviceHead => if '@' ≤ c && c ≤ '~' then deviceBody else deviceHead
    | deviceBody => if holdsTerminator c then outside else deviceBody
    | message => if holdsTerminator c then outside else message

/-- Whether a character is shown where a text is. -/
def shows (sequence : Sequence) (c : Char) : Bool :=
  match sequence with
  | outside => isShown c
  | escape | escapeBody | command => isLayout c
  | title | deviceHead | deviceBody | message => false

end Sequence

/-- What is shown of a text from within a sequence on.  While layout interrupts the
sequence, a character beyond ASCII ends it. -/
def showFrom (sequence : Sequence) (interrupted : Bool) : List Char → List Char
  | [] => []
  | c :: rest =>
    if interrupted && isShown c then
      c :: (if '\x80' ≤ c then showFrom .outside false rest else showFrom sequence true rest)
    else if sequence.shows c then c :: showFrom (sequence.next c) true rest
    else showFrom (sequence.next c) false rest

/-- A text without its control sequences and control characters. -/
def withoutControls (text : String) : String :=
  String.ofList (showFrom .outside false text.toList)

end PackageCoverage.Text
