import Passbook.Text.Padded
import Passbook.Text.Printable

/-!
# Quoted text

A text named in a message stands between quotes: single ones, or double ones when the text holds
a single quote and no double one. The quote in use and the backslash are escaped, and so is
every character without a printed form: the common controls by letter, the others by their code
point in two, four or eight hexadecimal digits.
-/

namespace Passbook.Text

/-- A code point in base sixteen, in at least `width` digits. -/
def hexadecimal (width n : Nat) : List Char := padLeft width (Nat.toDigits 16 n)

/-- One character of a quoted text. -/
def quotedChar (quote c : Char) : List Char :=
  if c == quote || c == '\\' then ['\\', c]
  else if c == '\t' then ['\\', 't']
  else if c == '\n' then ['\\', 'n']
  else if c == '\r' then ['\\', 'r']
  else if isPrintable c then [c]
  else if c.toNat ≤ 0xFF then '\\' :: 'x' :: hexadecimal 2 c.toNat
  else if c.toNat ≤ 0xFFFF then '\\' :: 'u' :: hexadecimal 4 c.toNat
  else '\\' :: 'U' :: hexadecimal 8 c.toNat

/-- The text between quotes. -/
def quoted (s : String) : String :=
  let cs := s.toList
  let quote := if cs.contains '\'' && !cs.contains '"' then '"' else '\''
  String.ofList (quote :: (cs.flatMap (quotedChar quote) ++ [quote]))

/-- The first characters of a text, at most `limit` of them. -/
def shortened (limit : Nat) (s : String) : String := String.ofList (s.toList.take limit)

end Passbook.Text
