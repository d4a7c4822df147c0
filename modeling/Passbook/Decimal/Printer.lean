import Passbook.Decimal.Basic

/-!
# The written form of a decimal

A decimal is written so that reading it back gives the same sign, digits and exponent. Digits
stand in plain notation while the exponent is not positive and at most five zeros follow the
point before the first digit; otherwise the first digit is followed by a point, the other
digits, and the power of ten of the first digit with its sign.
-/

namespace Passbook

namespace Scaled

/-- Whether the number is written without a power of ten. -/
def isPlain (x : Scaled) : Bool := x.exponent ≤ 0 && -6 ≤ x.adjusted

/-- Digits with a point before the last `places` of them, filled up with zeros on the left. -/
def pointed (digits : List Char) (places : Nat) : List Char :=
  if places = 0 then digits
  else if places < digits.length then
    digits.take (digits.length - places) ++ '.' :: digits.drop (digits.length - places)
  else '0' :: '.' :: (List.replicate (places - digits.length) '0' ++ digits)

/-- The digits as one digit, a point and the rest, which is left out when empty. -/
def leading (digits : List Char) : List Char :=
  match digits with
  | d :: (r :: rest) => d :: '.' :: r :: rest
  | ds => ds

/-- A power of ten with its sign, which is always written. -/
def power (e : Int) : List Char :=
  'E' :: (if e < 0 then '-' else '+') :: Nat.toDigits 10 e.natAbs

/-- The written form. -/
def toChars (x : Scaled) : List Char :=
  let digits := Nat.toDigits 10 x.coefficient
  let body :=
    if x.isPlain then pointed digits (-x.exponent).toNat
    else leading digits ++ power x.adjusted
  if x.negative then '-' :: body else body

end Scaled

namespace Decimal

/-- The written form; a payload is written unless it is zero. -/
def toChars : Decimal → List Char
  | finite x => x.toChars
  | infinite negative => (if negative then ['-'] else []) ++ "Infinity".toList
  | nan negative signaling payload =>
    (if negative then ['-'] else []) ++ (if signaling then ['s'] else []) ++ "NaN".toList ++
      (if payload = 0 then [] else Nat.toDigits 10 payload)

/-- The written form as text. -/
def toText (d : Decimal) : String := String.ofList d.toChars

instance : ToString Decimal := ⟨toText⟩

end Decimal

end Passbook
