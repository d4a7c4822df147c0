import Passbook.Decimal.Basic

/-!
# Comparing decimals

Numbers are compared by value: `5`, `5.00` and `0.5E+1` are equal, and so are the two zeros.
Values that are no numbers have no place in the order: asking for it is a fault, and only a
quiet one may be asked for equality, which is then false.
-/

namespace Passbook

namespace Scaled

/-- Compares two nonzero coefficients with their exponents, by the first digit's place and,
where that agrees, digit by digit in the finer unit. -/
def compareMagnitude (x y : Scaled) : Ordering :=
  match compare x.adjusted y.adjusted with
  | .eq =>
    compare (x.coefficient * Nat.pow 10 (x.exponent - y.exponent).toNat)
      (y.coefficient * Nat.pow 10 (y.exponent - x.exponent).toNat)
  | o => o

/-- Compares by value. -/
def cmp (x y : Scaled) : Ordering :=
  match x.coefficient, y.coefficient with
  | 0, 0 => .eq
  | 0, _ => if y.negative then .gt else .lt
  | _, 0 => if x.negative then .lt else .gt
  | _, _ =>
    match x.negative, y.negative with
    | false, false => compareMagnitude x y
    | true, true => compareMagnitude y x
    | false, true => .gt
    | true, false => .lt

end Scaled

namespace Decimal

/-- The order of two values, `none` where one of them is no number. -/
def compare? : Decimal → Decimal → Option Ordering
  | finite x, finite y => some (x.cmp y)
  | infinite s, infinite t => some (if s = t then .eq else if s then .lt else .gt)
  | infinite s, finite _ => some (if s then .lt else .gt)
  | finite _, infinite t => some (if t then .gt else .lt)
  | _, _ => none

/-- Whether `x` is below `y`. -/
def lt (x y : Decimal) : Except Fault Bool :=
  match x.compare? y with
  | some o => .ok (o == .lt)
  | none => .error .invalidOperation

/-- Whether `x` is at most `y`. -/
def le (x y : Decimal) : Except Fault Bool :=
  match x.compare? y with
  | some o => .ok (o != .gt)
  | none => .error .invalidOperation

/-- Whether `x` and `y` are numbers of one value; a fault if one of them is signaling. -/
def sameValue (x y : Decimal) : Except Fault Bool :=
  match x.compare? y with
  | some o => .ok (o == .eq)
  | none => if x.isSignaling || y.isSignaling then .error .invalidOperation else .ok false

/-- The smaller of the two, the first where they are equal in value. -/
def lesser (x y : Decimal) : Except Fault Decimal :=
  (y.lt x).map fun smaller => if smaller then y else x

end Decimal

end Passbook
