import Passbook.Decimal.Arithmetic

/-!
# Rounding to a fixed number of places

`Decimal.quantize` gives a number a chosen last place, halves away from zero. The value is
rounded once, from all its digits, and refused if the digits above that place are more than
the context keeps.
-/

namespace Passbook

open Decimal

/-- Exponent of the quantum of `places` places: the power of ten `-places`, found by shifting
one by so many places in the context. A shift of more than twice the context's range is no
operation, one above the largest exponent overflows, and one below the least exponent stays
there. -/
def quantumExponent (places : Int) : Except Fault Int :=
  if 2 * (maxExponent + precision) < places.natAbs then .error .invalidOperation
  else if maxExponent < -places then .error .overflow
  else .ok (max leastExponent (-places))

/-- The number whose last place is `10 ^ e` that is nearest to `x`, halves away from zero. It
keeps the sign, also of a zero, and must fit the context. -/
def Scaled.quantize (x : Scaled) (e : Int) : Except Fault Scaled :=
  if x.coefficient = 0 then .ok ⟨x.negative, 0, e⟩
  else if (precision : Int) < digitCount x.coefficient + (x.exponent - e) then
    .error .invalidOperation
  else
    let rounded := Rounding.halfUp.toPlace x e
    if precision < digitCount rounded.coefficient ∨ maxExponent < rounded.adjusted then
      .error .invalidOperation
    else .ok rounded

/-- `Scaled.quantize` on decimals. An infinity has no last place; a quiet value that is no
number is the result. -/
def Decimal.quantize (x : Decimal) (e : Int) : Except Fault Decimal :=
  match x with
  | finite a => (a.quantize e).map finite
  | infinite _ => .error .invalidOperation
  | x => propagate x 1

end Passbook
