import PackageCoverage.Text.Visible

/-!
# Quoted text

Text in a message is shown between double quotes in a form that takes one line
and can be told from what surrounds it: quotes, backslashes and the common
control characters are written with a backslash, and other characters that do
not show are written by their number.
-/

namespace PackageCoverage.Text

/-- One character of a quoted text. -/
def quoteChar (c : Char) : List Char :=
  if c = '\x00' then ['\\', '0']
  else if c = '\t' then ['\\', 't']
  else if c = '\n' then ['\\', 'n']
  else if c = '\r' then ['\\', 'r']
  else if c = '"' then ['\\', '"']
  else if c = '\\' then ['\\', '\\']
  else if isVisible c then [c]
  else ['\\', 'u', '\x7b'] ++ Nat.toDigits 16 c.toNat ++ ['\x7d']

/-- A text between quotes. -/
def quoted (text : String) : String :=
  String.ofList (['"'] ++ text.toList.flatMap quoteChar ++ ['"'])

end PackageCoverage.Text
