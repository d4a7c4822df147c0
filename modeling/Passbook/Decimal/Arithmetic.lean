import Passbook.Decimal.Rounding

/-!
# Sums, products and hundredths

Each operation computes its exact result and then fits it to the context. A sum of two
operands of very different size would need as many digits as their distance; there the smaller
operand is first replaced by one that rounds alike (`Scaled.beside`).

A quiet not-a-number operand is the result, its payload cut to the context; a signaling one is
a fault.
-/

namespace Passbook

open Decimal

namespace Scaled

/-- The signed count of units of `10 ^ e` in `x`, for `e` at most the exponent of `x`. Zero is
zero in every unit, however fine. -/
def units (x : Scaled) (e : Int) : Int :=
  if x.coefficient = 0 then 0
  else
    let n := x.coefficient * Nat.pow 10 (x.exponent - e).toNat
    if x.negative then -(n : Int) else n

/-- The sum with all its digits, in the finer unit of the two. A zero sum is negative only when
both operands are. -/
def exactSum (x y : Scaled) : Scaled :=
  let e := min x.exponent y.exponent
  let total := x.units e + y.units e
  ⟨if total = 0 then x.negative && y.negative else total < 0, total.natAbs, e⟩

/-- Stands in for `small` in a sum with `big`. When all of `small` lies below the second digit
after the last one that the sum can keep, one unit of that size has the same effect on the
rounded sum, and a zero `small` has none. -/
def beside (small big : Scaled) : Scaled :=
  let floor := big.exponent - 1 + min 0 ((digitCount big.coefficient : Int) - (precision + 1))
  if big.coefficient ≠ 0 ∧ small.adjusted < floor then
    { small with coefficient := min small.coefficient 1, exponent := floor }
  else small

/-- The rounded sum. -/
def add (x y : Scaled) : Except Fault Scaled :=
  if y.exponent ≤ x.exponent then (exactSum x (y.beside x)).fit
  else (exactSum (x.beside y) y).fit

/-- The product with all its digits. -/
def exactProduct (x y : Scaled) : Scaled :=
  ⟨x.negative != y.negative, x.coefficient * y.coefficient, x.exponent + y.exponent⟩

/-- The rounded product. -/
def mul (x y : Scaled) : Except Fault Scaled := (exactProduct x y).fit

/-- One hundredth of `x` with all its digits. Up to two trailing zeros are given up, so that a
multiple of one hundred keeps its exponent. -/
def exactHundredth (x : Scaled) : Scaled :=
  if x.coefficient % 100 = 0 then { x with coefficient := x.coefficient / 100 }
  else if x.coefficient % 10 = 0 then
    { x with coefficient := x.coefficient / 10, exponent := x.exponent - 1 }
  else { x with exponent := x.exponent - 2 }

/-- The rounded hundredth. -/
def hundredth (x : Scaled) : Except Fault Scaled := x.exactHundredth.fit

end Scaled

namespace Decimal

/-- The result of an operation on two operands of which one is not a number: a fault if one is
signaling, else the first that is not a number. -/
def propagate : Decimal → Decimal → Except Fault Decimal
  | nan _ true _, _ => .error .invalidOperation
  | _, nan _ true _ => .error .invalidOperation
  | nan negative false payload, _ => .ok (nan negative false (payload % Nat.pow 10 precision))
  | _, nan negative false payload => .ok (nan negative false (payload % Nat.pow 10 precision))
  | x, _ => .ok x

/-- The sum. Infinities of opposite sign have none. -/
def add (x y : Decimal) : Except Fault Decimal :=
  match x, y with
  | finite a, finite b => (a.add b).map finite
  | infinite s, infinite t => if s = t then .ok (infinite s) else .error .invalidOperation
  | infinite s, finite _ => .ok (infinite s)
  | finite _, infinite t => .ok (infinite t)
  | x, y => propagate x y

/-- The difference, the sum with the opposite. -/
def sub (x y : Decimal) : Except Fault Decimal := add x y.opposite

/-- The product. Zero times an infinity has none. -/
def mul (x y : Decimal) : Except Fault Decimal :=
  match x, y with
  | finite a, finite b => (a.mul b).map finite
  | infinite s, infinite t => .ok (infinite (s != t))
  | infinite s, finite b =>
    if b.coefficient = 0 then .error .invalidOperation else .ok (infinite (s != b.negative))
  | finite a, infinite t =>
    if a.coefficient = 0 then .error .invalidOperation else .ok (infinite (a.negative != t))
  | x, y => propagate x y

/-- The quotient by one hundred. -/
def hundredth (x : Decimal) : Except Fault Decimal :=
  match x with
  | finite a => a.hundredth.map finite
  | infinite s => .ok (infinite s)
  | x => propagate x 100

/-- The running total of `xs` from `start`, rounded after every addition. -/
def sumFrom (start : Decimal) : List Decimal → Except Fault Decimal
  | [] => .ok start
  | x :: xs => (start.add x).bind fun total => sumFrom total xs

/-- The total of `xs`, counted from zero. -/
def sum (xs : List Decimal) : Except Fault Decimal := sumFrom 0 xs

end Decimal

end Passbook
