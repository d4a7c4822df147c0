import Passbook.Text.Integer

/-!
# Whole numbers in settings

A whole number in a setting has an optional sign, ASCII digits with single underscores between
them, and blanks around it. Zeros at its start do not count, nor do underscores among these, and
a minus sign may follow them. A fraction of zeros is accepted and ignored.
-/

namespace Passbook.Text

/-- A character at which a whole number starts once its leading zeros are gone. -/
def opensWhole (c : Char) : Bool := c == '-' || (c.isDigit && c != '0')

/-- A character of a run of leading zeros. -/
def isLeadingZero (c : Char) : Bool := c == '0' || c == '_'

/-- The numeral without its leading zeros. Of zeros that make up the whole part the last
character stays, so that they must end in a zero. -/
def withoutLeadingZeros? (cs : List Char) : Option (List Char) :=
  let rest := if cs.head? == some '0' then cs.dropWhile isLeadingZero else cs
  match rest with
  | [] => (cs.getLast?).map ([·])
  | c :: _ =>
    if opensWhole c then some rest
    else if c == '.' then ((cs.takeWhile isLeadingZero).getLast?).map (· :: rest)
    else none

/-- The numeral without leading zeros and without a plus sign, which stands before everything
else. The zeros stand after a minus sign or before it, not on both sides. -/
def withoutPadding? (cs : List Char) : Option (List Char) :=
  match cs with
  | '+' :: '-' :: _ => none
  | '+' :: rest => withoutLeadingZeros? rest
  | '-' :: rest => (withoutLeadingZeros? rest).map ('-' :: ·)
  | _ => withoutLeadingZeros? cs

/-- The characters before a point that only zeros follow. -/
def withoutZeroFraction (cs : List Char) : List Char :=
  match cs.dropWhile (· != '.') with
  | '.' :: '0' :: zeros => if zeros.all (· == '0') then cs.takeWhile (· != '.') else cs
  | _ => cs

/-- Reads digits behind an optional minus sign. The first of several digits is no zero, and they
are not more than the limit. -/
def readPlain? (cs : List Char) : Option Int :=
  let (negative, digits) := match cs with
    | '-' :: digits => (true, digits)
    | _ => (false, cs)
  if digits.isEmpty || !digits.all Char.isDigit || maxDigits < digits.length ||
      (digits.head? == some '0' && digits.length != 1) then none
  else some (signed negative (Nat.ofDigitChars 10 digits 0))

/-- The number of digits at the start of a text, behind an optional minus sign, if the first of
them is no zero. -/
def openingDigits (cs : List Char) : Nat :=
  let unsigned := match cs with
    | '-' :: rest => rest
    | _ => cs
  if unsigned.head? == some '0' then 0 else (unsigned.takeWhile Char.isDigit).length

/-- Reads a whole number. Digits beyond the limit are reported whatever follows them, but only
where neither blanks nor a plus sign nor zeros stand before them. -/
def readWhole (s : String) : Except NumeralFault Int :=
  let size := openingDigits s.toList
  if maxDigits < size then .error (.tooLong size)
  else
    let value := (withoutPadding? (trim isBlank s.toList)).bind fun numeral =>
      let whole := withoutZeroFraction numeral
      readPlain? ((withoutUnderscores? whole).getD whole)
    match value with
    | some n => .ok n
    | none => .error .malformed

end Passbook.Text
