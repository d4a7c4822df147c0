import Passbook.Decimal.Basic
import Passbook.Text.Integer

/-!
# Reading a decimal

Blanks around a numeral and underscores anywhere in it are ignored, and a digit may come from
any script. What is left is an optional sign and then digits with at most one point and an
optional power of ten, or a word for an infinity or for no number, in any case. The number is
read exactly, however many digits it has; only the range of the exponent is limited.
-/

namespace Passbook

open Decimal

namespace Numeral

/-- Writes a digit of any script as the ASCII digit; another character outside ASCII, and the
null character, is none. -/
def ascii? (c : Char) : Option Char :=
  if 0 < c.toNat ∧ c.toNat < 128 then some c else Text.asciiDigit? c

/-- The numeral in ASCII without surrounding blanks and without underscores. -/
def plain? (s : String) : Option (List Char) :=
  ((Text.trim Text.isBlankOrSeparator s.toList).filter (· != '_')).mapM ascii?

/-- The power of ten at the end of a numeral; none is zero. -/
def power? : List Char → Option Int
  | [] => some 0
  | c :: rest =>
    let (negative, digits) := Text.sign rest
    if (c == 'e' || c == 'E') && !digits.isEmpty && digits.all Char.isDigit then
      let n : Int := Nat.ofDigitChars 10 digits 0
      some (if negative then -n else n)
    else none

/-- The digits after the point, if there is one, and the rest. -/
def fraction : List Char → List Char × List Char
  | '.' :: rest => (rest.takeWhile Char.isDigit, rest.dropWhile Char.isDigit)
  | rest => ([], rest)

/-- An unsigned numeral of digits. -/
def finite? (negative : Bool) (cs : List Char) : Option Scaled :=
  let whole := cs.takeWhile Char.isDigit
  let (decimals, rest) := fraction (cs.dropWhile Char.isDigit)
  if (whole ++ decimals).isEmpty then none
  else (power? rest).map fun e =>
    ⟨negative, Nat.ofDigitChars 10 (whole ++ decimals) 0, e - decimals.length⟩

/-- The payload after the word for no number: digits, or nothing. -/
def payload? (digits : List Char) : Option Nat :=
  if digits.all Char.isDigit then some (Nat.ofDigitChars 10 digits 0) else none

/-- An unsigned word for an infinity or for no number. -/
def word? (negative : Bool) (cs : List Char) : Option Decimal :=
  match cs.map Char.toLower with
  | 'n' :: 'a' :: 'n' :: digits => (payload? digits).map (nan negative false)
  | 's' :: 'n' :: 'a' :: 'n' :: digits => (payload? digits).map (nan negative true)
  | w => if w = "inf".toList || w = "infinity".toList then some (infinite negative) else none

end Numeral

/-- Largest power of ten of the first digit that a numeral may have. -/
def Scaled.readableExponent : Int := 999999999999999999

/-- Least power of ten of the last digit that a numeral may have. -/
def Scaled.leastReadableExponent : Int := -1999999999999999997

/-- Whether a numeral may stand for the number: its first digit, or the only one of a zero, and
its last digit lie within the range of exponents. -/
def Scaled.isReadable (x : Scaled) : Bool :=
  (x.adjusted ≤ readableExponent) && leastReadableExponent ≤ x.exponent

/-- Reads a decimal from ASCII characters. -/
def Decimal.ofChars (cs : List Char) : Except Fault Decimal :=
  let (negative, unsigned) := Text.sign cs
  match Numeral.finite? negative unsigned with
  | some x =>
    if x.isReadable then .ok (finite x) else .error .invalidOperation
  | none =>
    match Numeral.word? negative unsigned with
    | some d => .ok d
    | none => .error .malformed

/-- Reads a decimal. A text that is no numeral is malformed; a numeral beyond the range of
exponents is an invalid operation. -/
def Decimal.read (s : String) : Except Fault Decimal :=
  match Numeral.plain? s with
  | some cs => ofChars cs
  | none => .error .malformed

end Passbook
