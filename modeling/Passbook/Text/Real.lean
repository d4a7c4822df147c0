import Passbook.Text.Integer

/-!
# Numerals of real numbers

A numeral of a real number has an optional sign, digits of any script with single underscores
between them, at most one point, an optional power of ten, and blanks around it. A word stands for
an infinity or for no number.
-/

namespace Passbook.Text

/-- Whether the characters are digits with single underscores between them. -/
def isDigits (cs : List Char) : Bool :=
  cs.all isNumeralChar && (withoutUnderscores? cs).isSome

/-- Whether the characters are digits with at most one point before, between or behind them. -/
def isPointed (cs : List Char) : Bool :=
  match cs.splitOn '.' with
  | [whole] => isDigits whole
  | [whole, decimals] =>
    (whole.isEmpty || isDigits whole) && (decimals.isEmpty || isDigits decimals) &&
      !(whole.isEmpty && decimals.isEmpty)
  | _ => false

/-- Whether the characters are a power of ten, or none. -/
def isPower (cs : List Char) : Bool :=
  match cs with
  | [] => true
  | _ :: rest => isDigits (sign rest).2

/-- A letter before a power of ten. -/
def opensPower (c : Char) : Bool := c == 'e' || c == 'E'

/-- Words for an infinity and for no number. -/
def realWords : List String := ["inf", "infinity", "nan"]

/-- Whether a text is a numeral of a real number. -/
def isReal (s : String) : Bool :=
  let unsigned := (sign (trim isBlank s.toList)).2
  realWords.contains (String.ofList (unsigned.map Char.toLower)) ||
    (isPointed (unsigned.takeWhile fun c => !opensPower c) &&
      isPower (unsigned.dropWhile fun c => !opensPower c))

end Passbook.Text
