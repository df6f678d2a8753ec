/-!
# Coloured text

A terminal changes its style at an escape sequence: the escape character, a
bracket, the number of the style and an `m`.  The style `0` takes all others
back, so painted text stands between two such sequences and leaves what follows
as it was.
-/

namespace PackageCoverage

/-- The styles in use. -/
inductive Style where
  | bold
  | green
  | yellow
  | boldRed
deriving DecidableEq

namespace Style

/-- The escape sequence of the given style numbers. -/
def sequence (numbers : String) : String := "\x1b[" ++ numbers ++ "m"

/-- The numbers of a style. -/
def numbers : Style → String
  | bold => "1"
  | green => "32"
  | yellow => "33"
  | boldRed => "1;31"

/-- Text in a style, which ends with the text. -/
def paint (style : Style) (text : String) : String :=
  sequence style.numbers ++ text ++ sequence "0"

/-- Text in a style if colour is wanted, and otherwise as it is. -/
def paintIf (colour : Bool) (style : Style) (text : String) : String :=
  if colour then style.paint text else text

end Style

end PackageCoverage
