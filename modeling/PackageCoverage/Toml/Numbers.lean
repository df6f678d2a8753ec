import PackageCoverage.Binary64.Decimal
import PackageCoverage.Toml.Strings

/-!
# Numbers and times

Underscores may stand between the digits of a number.  Integers have 64 bits.  A
float that is too large for its format is refused if it is positive; a negative
one becomes the negative infinity.
-/

namespace PackageCoverage.Toml

open Reader

/-! ## Digits -/

/-- Digits with single underscores between them. -/
def groupedDigits (isDigit : Char → Bool) : Reader (List Char) := do
  let first ← charIf isDigit
  return first :: (← many (charIf isDigit <|> char '_' *> charIf isDigit))

/-- Decimal digits without a zero in front. -/
def wholeDigits : Reader (List Char) :=
  (List.singleton <$> char '0') <|> groupedDigits Char.isDigit

/-- A sign, if there is one; whether it is a minus. -/
def sign : Reader Bool := do
  let sign ← optional (charIf fun c => c = '+' || c = '-')
  return sign = some '-'

/-! ## Integers -/

/-- An integer of 64 bits. -/
def bounded (value : Int) : Reader Int :=
  if -0x8000000000000000 ≤ value ∧ value < 0x8000000000000000 then return value else failure

/-- Digits of a base behind the mark of the base. -/
def inBase (mark : String) (base : Nat) (isDigit : Char → Bool) : Reader Int := do
  word mark
  bounded (Text.ofDigits base (← groupedDigits isDigit))

/-- An integer. -/
def integer : Reader Int :=
  inBase "0x" 16 Text.isHexDigit
    <|> inBase "0o" 8 (fun c => '0' ≤ c && c ≤ '7')
    <|> inBase "0b" 2 (fun c => c = '0' || c = '1')
    <|> do
      let negative ← sign
      let value := Text.ofDigits 10 (← wholeDigits)
      bounded (if negative then -value else value)

/-! ## Floats -/

/-- A point and digits. -/
def fraction : Reader (List Char) := char '.' *> groupedDigits Char.isDigit

/-- The mark of an exponent and an integer. -/
def exponent : Reader Int := do
  discard (charIf fun c => c = 'e' || c = 'E')
  let negative ← sign
  let value : Int := Text.ofDigits 10 (← groupedDigits Char.isDigit)
  return if negative then -value else value

/-- A float with a fraction, an exponent, or both. -/
def decimalFloat : Reader Binary64 := do
  let negative ← sign
  let whole ← wholeDigits
  let (fraction, exponent) ←
    (do return ([], ← exponent)) <|> (do return (← fraction, (← optional exponent).getD 0))
  let decimal : Binary64.Decimal :=
    ⟨Text.ofDigits 10 (whole ++ fraction), exponent - fraction.length⟩
  let value := Binary64.ofDecimal negative decimal
  if value = .infinity false then failure else return value

/-- An infinity or a NaN by its name. -/
def namedFloat : Reader Binary64 := do
  let negative ← sign
  (word "inf" *> pure (.infinity negative)) <|>
    (word "nan" *> pure { Binary64.nan with negative := negative })

/-- A float. -/
def float : Reader Binary64 := decimalFloat <|> namedFloat

/-! ## Dates and times -/

/-- A number of so many digits that is in a range. -/
def field (digits first last : Nat) : Reader Nat :=
  thatIs (fun value => first ≤ value && value ≤ last)
    (Text.ofDigits 10 <$> exactly (charIf Char.isDigit) digits)

/-- The number of days in a month. -/
def daysIn (year month : Nat) : Nat :=
  if month = 2 then
    if year % 4 = 0 ∧ (year % 100 ≠ 0 ∨ year % 400 = 0) then 29 else 28
  else if month = 4 ∨ month = 6 ∨ month = 9 ∨ month = 11 then 30
  else 31

/-- A date. -/
def date : Reader Unit := do
  let year ← field 4 0 9999
  discard (char '-')
  let month ← field 2 1 12
  discard (char '-')
  discard (field 2 1 (daysIn year month))

/-- A time of day. -/
def time : Reader Unit := do
  discard (field 2 0 23)
  discard (char ':')
  discard (field 2 0 59)
  discard (char ':')
  discard (field 2 0 60)
  discard (optional (char '.' *> run1 Char.isDigit))

/-- The distance of a time of day from universal time. -/
def offset : Reader Unit :=
  discard (charIf fun c => c = 'Z' || c = 'z') <|> do
    discard (charIf fun c => c = '+' || c = '-')
    discard (field 2 0 23)
    discard (char ':')
    discard (field 2 0 59)

/-- A date, a time of day, or both. -/
def dateTime : Reader Unit :=
  (do
    date
    discard (optional (charIf (fun c => c = 'T' || c = 't' || c = ' ') *> time *>
      optional offset)))
    <|> time

end PackageCoverage.Toml
