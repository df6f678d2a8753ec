/-!
# Numbers in other bases

Digits beyond nine are letters, large or small.
-/

namespace PackageCoverage.Text

/-- Whether a character is a hexadecimal digit. -/
def isHexDigit (c : Char) : Bool :=
  c.isDigit || ('a' ≤ c && c ≤ 'f') || ('A' ≤ c && c ≤ 'F')

/-- The value of a hexadecimal digit. -/
def hexDigit (c : Char) : Nat :=
  if c.isDigit then c.toNat - '0'.toNat else c.toLower.toNat - 'a'.toNat + 10

/-- The number that digits of a base write. -/
def ofDigits (base : Nat) (digits : List Char) : Nat :=
  digits.foldl (fun value c => base * value + hexDigit c) 0

/-- The character whose number hexadecimal digits write. -/
def charOfHex? (digits : List Char) : Option Char :=
  let code := ofDigits 16 digits
  if code.isValidChar then some (Char.ofNat code) else none

end PackageCoverage.Text
