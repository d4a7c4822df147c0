import Passbook.Decimal.Rounding

/-!
# Binary floating-point numbers of sixty-four bits

A finite number is `± mantissa * 2 ^ exponent` with a mantissa below `2 ^ 53`. It has an exact
decimal value. Three conversions are given: the nearest such number to a decimal, the shortest
decimal that is read back as the same number, and the value rounded to a fixed number of places.
-/

namespace Passbook

/-- A binary floating-point number. The mantissa of a finite one is at least `2 ^ 52`, or the
exponent is the least one, `-1074`. -/
inductive Binary64 where
  | finite (negative : Bool) (mantissa : Nat) (exponent : Int)
  | infinite (negative : Bool)
  | nan
  deriving DecidableEq, Repr, Inhabited

namespace Binary64

/-- Least exponent of a finite number. -/
def leastExponent : Int := -1074

/-- Largest exponent of a finite number. -/
def maxExponent : Int := 971

/-- Mantissas of finite numbers lie below this bound, `2 ^ 53`. -/
def mantissaBound : Nat := Nat.pow 2 53

/-- The least mantissa of a number whose exponent is not the least one, `2 ^ 52`. -/
def fullMantissa : Nat := Nat.pow 2 52

/-- The fraction `n / d` divided by `2 ^ q`, as numerator and denominator. -/
def inUnits (n d : Nat) (q : Int) : Nat × Nat :=
  if 0 ≤ q then (n, d * Nat.pow 2 q.toNat) else (n * Nat.pow 2 (-q).toNat, d)

/-- The number nearest to `± n / d` for positive `n` and `d`, halves to the even mantissa. -/
def ofQuotient (negative : Bool) (n d : Nat) : Binary64 :=
  let q := max leastExponent ((n.log2 : Int) - d.log2 - 53)
  let (n₀, d₀) := inUnits n d q
  let q := if n₀ < mantissaBound * d₀ then q else q + 1
  let (n₁, d₁) := inUnits n d q
  let m := Rounding.halfEven.quotient n₁ d₁
  let (m, q) := if m = mantissaBound then (fullMantissa, q + 1) else (m, q)
  if maxExponent < q then infinite negative else finite negative m q

/-- The number nearest to a decimal. First digits beyond the range of the format are settled
without computing large powers. -/
def ofScaled (x : Scaled) : Binary64 :=
  if x.coefficient = 0 ∨ x.adjusted < -330 then finite x.negative 0 leastExponent
  else if 310 < x.adjusted then infinite x.negative
  else if 0 ≤ x.exponent then ofQuotient x.negative (x.coefficient * Nat.pow 10 x.exponent.toNat) 1
  else ofQuotient x.negative x.coefficient (Nat.pow 10 (-x.exponent).toNat)

/-- The number nearest to a decimal; a signaling value that is no number has none. -/
def ofDecimal? : Decimal → Option Binary64
  | .finite x => some (ofScaled x)
  | .infinite negative => some (infinite negative)
  | .nan _ signaling _ => if signaling then none else some nan

/-- The exact decimal value of `± m * 2 ^ q`. -/
def exact (negative : Bool) (m : Nat) (q : Int) : Scaled :=
  if 0 ≤ q then ⟨negative, m * Nat.pow 2 q.toNat, 0⟩
  else ⟨negative, m * Nat.pow 5 (-q).toNat, q⟩

/-- The coefficient of `n` digits for a value `v` between `low` and `high`: of the two
neighbours of `v` that end `d` digits earlier the one that lies between, and of two such the
nearer, an even one where they are equally near. The ends belong to the interval where `closed`
holds. -/
def shorten? (low v high : Nat) (closed : Bool) (d : Nat) : Option Nat :=
  let unit := Nat.pow 10 d
  let below := v / unit
  let above := below + 1
  let lowFits := low < below * unit || (closed && low = below * unit)
  let highFits := above * unit < high || (closed && above * unit = high)
  if lowFits && highFits then some (Rounding.halfEven.quotient v unit)
  else if lowFits then some below
  else if highFits then some above
  else none

/-- The shortest decimal between the midpoints to the neighbours of `m * 2 ^ q`, and of the
shortest the one nearest to it. The midpoints belong to the interval when `m` is even. Values
are counted in units of `2 ^ (q - 2)`, where all of them are whole. -/
def shortest (m : Nat) (q : Int) : Scaled :=
  let unit := exact false 1 (q - 2)
  let v := 4 * m * unit.coefficient
  let low := (4 * m - if m = fullMantissa ∧ leastExponent < q then 1 else 2) * unit.coefficient
  let high := (4 * m + 2) * unit.coefficient
  let size := digitCount v
  let found := (List.range 17).findSome? fun n =>
    let d := size - (n + 1)
    (shorten? low v high (m % 2 == 0) d).map fun c => (⟨false, c, unit.exponent + d⟩ : Scaled)
  found.getD ⟨false, v, unit.exponent⟩

/-- Gives up the zeros at the end of the coefficient, at most `k` of them. -/
def withoutZeros (x : Scaled) : Nat → Scaled
  | 0 => x
  | k + 1 =>
    if x.coefficient % 10 = 0 then
      withoutZeros { x with coefficient := x.coefficient / 10, exponent := x.exponent + 1 } k
    else x

/-- The decimal that stands for a binary number: the shortest that is read back as it. A whole
number below `10 ^ 16` has one decimal, a zero. -/
def toDecimal : Binary64 → Decimal
  | nan => .nan false false 0
  | infinite negative => .infinite negative
  | finite negative m q =>
    if m = 0 then .finite ⟨negative, 0, -1⟩
    else
      let s := shortest m q
      let s := { withoutZeros s (digitCount s.coefficient) with negative := negative }
      if 0 ≤ s.exponent ∧ s.adjusted < 16 then .finite (Rounding.halfEven.toPlace s (-1))
      else .finite s

/-- The whole number that a binary number is, if it is one. -/
def toInt? : Binary64 → Option Int
  | finite negative m q =>
    let x := exact negative m q
    let d := (-x.exponent).toNat
    let unit := Nat.pow 10 d
    if x.coefficient % unit = 0 then
      let n := x.coefficient / unit
      some (if negative then -(n : Int) else n)
    else none
  | _ => none

/-- The value with two decimals, halves to the even neighbour; infinities stay, and a value that
is no number has none. -/
def toCents? : Binary64 → Option Decimal
  | finite negative m q =>
    some (.finite (Rounding.halfEven.toPlace (exact negative m q) (-2)))
  | infinite negative => some (.infinite negative)
  | nan => none

end Binary64

end Passbook
