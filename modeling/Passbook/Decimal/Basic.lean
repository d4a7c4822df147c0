/-!
# Decimal numbers

A finite decimal is a sign, a whole coefficient and a power of ten. Trailing zeros and the
sign of zero are kept: `5`, `5.00` and `5E+0` with different exponents are different decimals
of one value. Beside the finite ones there are two infinities and the not-a-number values,
quiet or signaling, each with a sign and a payload.

Arithmetic works in one fixed context of twenty-eight digits. An operation that has no result
in it stops with a `Fault`.
-/

namespace Passbook

/-- Number of digits of a whole number written in base ten; zero has one. -/
def digitCount (n : Nat) : Nat := (Nat.toDigits 10 n).length

theorem digitCount_pos (n : Nat) : 0 < digitCount n := Nat.length_toDigits_pos

/-- At most `k` digits is the same as below `10 ^ k`. -/
theorem digitCount_le_iff {n k : Nat} (h : 0 < k) : digitCount n ≤ k ↔ n < Nat.pow 10 k :=
  Nat.length_toDigits_le_iff (by decide) h

/-- A sign, a coefficient and a power of ten: `± coefficient * 10 ^ exponent`. -/
structure Scaled where
  /-- The sign, which zero has too. -/
  negative : Bool
  /-- All digits, trailing zeros included. -/
  coefficient : Nat
  /-- Power of ten of the last digit. -/
  exponent : Int
  deriving DecidableEq, Repr, Inhabited

namespace Scaled

/-- Power of ten of the first digit. -/
def adjusted (x : Scaled) : Int := x.exponent + digitCount x.coefficient - 1

/-- The same number with the other sign. -/
def opposite (x : Scaled) : Scaled := { x with negative := !x.negative }

/-- The whole number `n`, whose last digit is the unit. -/
def ofInt (n : Int) : Scaled := ⟨n < 0, n.natAbs, 0⟩

end Scaled

/-- A decimal number, an infinity, or a value that stands for no number. -/
inductive Decimal where
  | finite (value : Scaled)
  | infinite (negative : Bool)
  | nan (negative signaling : Bool) (payload : Nat)
  deriving DecidableEq, Repr, Inhabited

namespace Decimal

/-- Why an operation on decimals has no result. -/
inductive Fault where
  /-- A text is not a decimal numeral. -/
  | malformed
  /-- The operation is undefined on its operands, or its result does not fit. -/
  | invalidOperation
  /-- A nonzero result lies beyond the largest power of ten. -/
  | overflow
  deriving DecidableEq, Repr, Inhabited

/-- Digits that a result of arithmetic keeps. -/
def precision : Nat := 28

/-- Largest power of ten of a first digit. -/
def maxExponent : Int := 999999

/-- Least power of ten of a last digit; results below it lose digits. -/
def leastExponent : Int := -1000026

/-- The whole number `n` with exponent zero. -/
def ofInt (n : Int) : Decimal := finite (Scaled.ofInt n)

instance (n : Nat) : OfNat Decimal n := ⟨ofInt n⟩

/-- Whether the value stands for no number. -/
def isNaN : Decimal → Bool
  | nan .. => true
  | _ => false

/-- Whether every use of the value in arithmetic or comparison is a fault. -/
def isSignaling : Decimal → Bool
  | nan _ signaling _ => signaling
  | _ => false

/-- Whether the value is a number and no infinity. -/
def isFinite : Decimal → Bool
  | finite _ => true
  | _ => false

/-- The same value with the other sign; a value that is no number is left as it is. -/
def opposite : Decimal → Decimal
  | finite x => finite x.opposite
  | infinite negative => infinite !negative
  | x => x

@[simp] theorem isFinite_finite (x : Scaled) : (finite x).isFinite = true := rfl

theorem isFinite_iff {d : Decimal} : d.isFinite = true ↔ ∃ x, d = finite x := by
  cases d <;> simp [isFinite]

theorem isNaN_of_isFinite {d : Decimal} (h : d.isFinite = true) : d.isNaN = false := by
  obtain ⟨x, rfl⟩ := isFinite_iff.mp h
  rfl

end Decimal

end Passbook
