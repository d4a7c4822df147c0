import Passbook.Text.Blank
import Passbook.Text.DecimalDigit

/-!
# Integers

An integer has an optional sign directly before its digits, which may come from any script, single
underscores between digits, and blanks around it. Its digits are limited in number, both where it
is read and where it is written.
-/

namespace Passbook.Text

/-- Why a text is not read as an integer. -/
inductive NumeralFault where
  /-- The text is no numeral of an integer. -/
  | malformed
  /-- The numeral has this number of digits, which is too large. -/
  | tooLong (digits : Nat)
  deriving DecidableEq, Repr, Inhabited

/-- Largest number of digits that the numeral of an integer may have. -/
def maxDigits : Nat := 4300

/-- Whether an integer has few enough digits to be written out. -/
def isWritable (n : Int) : Bool := (Nat.toDigits 10 n.natAbs).length ≤ maxDigits

/-- An optional sign, true for minus, and the rest. -/
def sign : List Char → Bool × List Char
  | '-' :: rest => (true, rest)
  | '+' :: rest => (false, rest)
  | rest => (false, rest)

/-- The integer of a sign and an absolute value. -/
def signed (negative : Bool) (n : Nat) : Int := if negative then -(n : Int) else n

/-- The characters without underscores, if each of these stands alone between two others. -/
def withoutUnderscores? (cs : List Char) : Option (List Char) :=
  let groups := cs.splitOn '_'
  if groups.any List.isEmpty then none else some groups.flatten

/-- A character that the digits of an integer consist of. -/
def isNumeralChar (c : Char) : Bool := (digitValue? c).isSome || c == '_'

/-- Reads an integer. Digits beyond the limit are reported whatever follows them. -/
def readInteger (cs : List Char) : Except NumeralFault Int :=
  let (negative, unsigned) := sign (trim isBlank cs)
  match withoutUnderscores? (unsigned.takeWhile isNumeralChar) with
  | none => .error .malformed
  | some digits =>
    if maxDigits < digits.length then .error (.tooLong digits.length)
    else if unsigned.all isNumeralChar then
      .ok (signed negative (Nat.ofDigitChars 10 (digits.filterMap asciiDigit?) 0))
    else .error .malformed

end Passbook.Text
