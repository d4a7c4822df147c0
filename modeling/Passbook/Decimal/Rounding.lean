import Passbook.Decimal.Basic

/-!
# Rounding to the context

`Rounding.quotient` is the nearest whole number to a fraction and says what happens to the half;
`Rounding.drop` removes low digits of a coefficient by it.
`Scaled.fit` brings an exact result into the context: at most `precision` digits, no digit
below `leastExponent`, and no first digit above `maxExponent`. An exact result that already
fits is returned as it is, trailing zeros included.
-/

namespace Passbook

/-- What becomes of a remainder of exactly one half; every other remainder goes to the nearer
neighbour. -/
inductive Rounding where
  /-- Halves go to the even neighbour. -/
  | halfEven
  /-- Halves go away from zero. -/
  | halfUp
  deriving DecidableEq, Repr

/-- The whole number nearest to `n / d`, for positive `d`. -/
def Rounding.quotient (mode : Rounding) (n d : Nat) : Nat :=
  if 2 * (n % d) < d then n / d
  else if d < 2 * (n % d) then n / d + 1
  else match mode with
    | .halfEven => n / d + n / d % 2
    | .halfUp => n / d + 1

/-- Removes the `k` last digits of `c`, rounding to the nearest whole number. A coefficient of
fewer than `k` digits is below one half and leaves nothing, so no large power is computed. -/
def Rounding.drop (mode : Rounding) (c k : Nat) : Nat :=
  if digitCount c < k then 0 else mode.quotient c (Nat.pow 10 k)

/-- The number `x` written with last place `10 ^ e`, exactly where it has no digit below that
place and rounded otherwise. -/
def Rounding.toPlace (mode : Rounding) (x : Scaled) (e : Int) : Scaled :=
  { negative := x.negative
    coefficient :=
      if e ≤ x.exponent then x.coefficient * Nat.pow 10 (x.exponent - e).toNat
      else mode.drop x.coefficient (e - x.exponent).toNat
    exponent := e }

namespace Scaled

open Decimal

/-- Power of ten that the last digit of `x` may keep in the context. -/
def fitExponent (x : Scaled) : Int :=
  max x.exponent (max (x.adjusted - precision + 1) leastExponent)

/-- The nearest decimal of the context, halves to even. Only a nonzero result whose first digit
lies above `maxExponent` has none. -/
def fit (x : Scaled) : Except Fault Scaled :=
  if x.coefficient = 0 then
    .ok { x with exponent := max leastExponent (min x.exponent maxExponent) }
  else
    let e := x.fitExponent
    let c := Rounding.halfEven.drop x.coefficient (e - x.exponent).toNat
    let rounded : Scaled :=
      if c = Nat.pow 10 precision then ⟨x.negative, Nat.pow 10 (precision - 1), e + 1⟩
      else ⟨x.negative, c, e⟩
    if maxExponent < rounded.adjusted then .error .overflow else .ok rounded

end Scaled

end Passbook
