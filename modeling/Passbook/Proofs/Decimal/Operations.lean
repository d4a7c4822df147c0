import Passbook.Proofs.Decimal.Context
import Passbook.Proofs.Decimal.Order
import Passbook.Proofs.Outcome

/-!
# Operations round their exact results

A sum, a difference, a product and a hundredth are the exact ones rounded to the context, so
they depend on the numbers alone and not on how these are written. In a sum a far smaller operand
is replaced by one unit behind all digits that are kept, which rounds alike. Operations with a
representable exact result are exact, and they return unless the result reaches the limit.
-/

namespace Passbook

namespace Decimal

variable {b s t q : ℚ} {a f : Int}

/-- A number on a grid stays between the same two halves when something small is added. -/
theorem exists_betweenHalves_add (hb : b ∈ grid (f + 1)) :
    ∃ m : ℤ, (∀ t, 0 < t → |t| ≤ 10 ^ f → BetweenHalves f (2 * m) (b + t)) ∧
      ∀ t, t < 0 → |t| ≤ 10 ^ f → BetweenHalves f (2 * m - 1) (b + t) := by
  obtain ⟨m, rfl⟩ := mem_grid_iff.mp hb
  have hp : (0 : ℚ) < 10 ^ f := by positivity
  rw [zpow_add_one₀ (by norm_num)]
  refine ⟨m, ?_, ?_⟩
  · intro t h0 ht
    rw [abs_of_pos h0] at ht
    constructor
    · push_cast
      linarith
    · push_cast
      linarith
  · intro t h0 ht
    rw [abs_of_neg h0] at ht
    constructor
    · push_cast
      linarith
    · push_cast
      linarith

/-- Of a sum with a number behind all its digits no digit that far behind is kept. -/
theorem le_keptPlace_add (hlead : (10 : ℚ) ^ a ≤ |b|) (hdeep : f ≤ a - (precision + 1))
    (ht : |t| ≤ 10 ^ f) : f + 1 ≤ keptPlace (b + t) := by
  have hfirst : (10 : ℚ) ^ a = 10 * 10 ^ (a - 1) := by
    rw [← zpow_one_add₀ (by norm_num)]
    congr 1
    omega
  have hsmall : (10 : ℚ) ^ f ≤ 10 ^ (a - 1) :=
    zpow_le_zpow_right₀ (by norm_num) (by unfold precision at hdeep; omega)
  have hsum : |b| - |t| ≤ |b + t| := by
    have := abs_sub_abs_le_abs_sub b (-t)
    rwa [abs_neg, sub_neg_eq_add] at this
  have hpos : (0 : ℚ) < 10 ^ (a - 1) := by positivity
  have hkept : (10 : ℚ) ^ (a - 1) ≤ |b + t| := by linarith
  have hne : b + t ≠ 0 := abs_pos.mp (hpos.trans_le hkept)
  have hlog : ¬Int.log 10 |b + t| < a - 1 := by
    rw [log_lt_iff hne]
    exact not_lt.mpr hkept
  unfold keptPlace
  unfold precision at *
  omega

/-- Two numbers of one sign behind all digits of a number round its sum alike. -/
theorem rounded_add_congr (hb : b ∈ grid (f + 1)) (hlead : (10 : ℚ) ^ a ≤ |b|)
    (hdeep : f ≤ a - (precision + 1)) (hs : |s| ≤ 10 ^ f) (ht : |t| ≤ 10 ^ f)
    (hsign : 0 < s * t) : rounded (b + s) = rounded (b + t) := by
  have hks := le_keptPlace_add hlead hdeep hs
  have hkt := le_keptPlace_add hlead hdeep ht
  obtain ⟨m, hpos, hneg⟩ := exists_betweenHalves_add hb
  rcases pos_and_pos_or_neg_and_neg_of_mul_pos hsign with ⟨hs0, ht0⟩ | ⟨hs0, ht0⟩
  · exact (hpos s hs0 hs).rounded_congr (hpos t ht0 ht) hks hkt
  · exact (hneg s hs0 hs).rounded_congr (hneg t ht0 ht) hks hkt

end Decimal

namespace Scaled

open Decimal

/-- The two numbers have one sign. -/
theorem value_mul_value_pos {x y : Scaled} (hx : x.coefficient ≠ 0) (hy : y.coefficient ≠ 0)
    (h : x.negative = y.negative) : 0 < x.value * y.value := by
  have hmx := magnitude_pos hx
  have hmy := magnitude_pos hy
  rw [value, value, h]
  split
  · rw [neg_mul_neg]
    positivity
  · positivity

/-- A number is so far behind the digits of another one that a sum of both keeps none of its own. -/
structure FarBehind (small big : Scaled) (floor : Int) : Prop where
  mem : big.value ∈ grid (floor + 1)
  lead : (10 : ℚ) ^ big.adjusted ≤ |big.value|
  deep : floor ≤ big.adjusted - (precision + 1)
  behind : |small.value| ≤ 10 ^ floor

/-- A nonzero number that is replaced in a sum is behind all digits that are kept. -/
theorem farBehind {small big : Scaled} (hbig : big.coefficient ≠ 0) (hsmall : small.coefficient ≠ 0)
    (h : small.adjusted <
      big.exponent - 1 + min 0 ((digitCount big.coefficient : Int) - (precision + 1))) :
    FarBehind small big
      (big.exponent - 1 + min 0 ((digitCount big.coefficient : Int) - (precision + 1))) where
  mem := grid_anti (by omega) big.value_mem_grid
  lead := by
    rw [abs_value]
    exact ten_pow_adjusted_le hbig
  deep := by
    unfold adjusted
    omega
  behind := by
    rw [abs_value]
    have hlt := (adjusted_le_iff hsmall).mp (Int.le_sub_one_of_lt h)
    rw [sub_add_cancel] at hlt
    exact hlt.le

/-- What stands in for a number in a sum rounds the sum alike. -/
theorem rounded_add_beside (small big : Scaled) :
    rounded (big.value + (small.beside big).value) = rounded (big.value + small.value) := by
  unfold beside
  dsimp only
  split
  next hcond =>
    obtain ⟨hbig, hbelow⟩ := hcond
    by_cases hc : small.coefficient = 0
    · have hstand : ∀ e, (⟨small.negative, min small.coefficient 1, e⟩ : Scaled).value = 0 :=
        fun e => value_eq_zero_iff.mpr (by simp [hc])
      rw [value_eq_zero_iff.mpr hc, hstand]
    · have hone : min small.coefficient 1 = 1 := by omega
      have hfar := farBehind hbig hc hbelow
      refine rounded_add_congr hfar.mem hfar.lead hfar.deep ?_ hfar.behind
        (value_mul_value_pos ?_ hc rfl)
      · rw [abs_value, magnitude, hone, Nat.cast_one, one_mul]
      · rw [hone]
        exact one_ne_zero
  next => rfl

/-- What an addition fits: the exact sum, with a negligible operand replaced. -/
def addend (x y : Scaled) : Scaled :=
  if y.exponent ≤ x.exponent then exactSum x (y.beside x) else exactSum (x.beside y) y

/-- An addition fits its addend. -/
theorem add_eq_fit (x y : Scaled) : x.add y = (addend x y).fit := by
  unfold add addend
  split <;> rfl

/-- What an addition fits rounds as the sum. -/
theorem rounded_value_addend (x y : Scaled) :
    rounded (addend x y).value = rounded (x.value + y.value) := by
  unfold addend
  split
  · rw [value_exactSum, rounded_add_beside]
  · rw [value_exactSum, add_comm, rounded_add_beside, add_comm]

end Scaled

namespace Decimal

variable {x y z : Decimal} {p q r : ℚ} {outcome : Except Fault Decimal}

/-- The outcome of an operation whose exact result is `q`: the rounded number, or a fault if that
reaches the limit. -/
structure Rounds (q : ℚ) (outcome : Except Fault Decimal) : Prop where
  returns : |rounded q| < limit → ∃ z, outcome = .ok z ∧ z.HasValue (rounded q)
  overflows : limit ≤ |rounded q| → outcome = .error .overflow

namespace Rounds

/-- A returned result is below the limit. -/
theorem lt_limit (h : Rounds q outcome) (hz : outcome = .ok z) : |rounded q| < limit := by
  by_contra hlimit
  rw [h.overflows (not_lt.mp hlimit)] at hz
  exact nomatch hz

/-- A returned result is the rounded number. -/
theorem hasValue (h : Rounds q outcome) (hz : outcome = .ok z) : z.HasValue (rounded q) := by
  obtain ⟨z', hz', hvalue⟩ := h.returns (h.lt_limit hz)
  obtain rfl := Except.ok.inj (hz.symm.trans hz')
  exact hvalue

/-- A returned representable result is exact. -/
theorem hasValue_of_representable (h : Rounds q outcome) (hr : Representable q)
    (hz : outcome = .ok z) : z.HasValue q := by
  have hvalue := h.hasValue hz
  rwa [rounded_of_representable hr] at hvalue

/-- A representable result below the limit is returned. -/
theorem returns_of_representable (h : Rounds q outcome) (hr : Representable q) (hl : |q| < limit) :
    ∃ z, outcome = .ok z := by
  obtain ⟨z, hz, -⟩ := h.returns (by rwa [rounded_of_representable hr])
  exact ⟨z, hz⟩

end Rounds

/-- Fitting rounds. -/
theorem fit_rounds (x : Scaled) : Rounds x.value (x.fit.map finite) where
  returns h := by
    obtain ⟨y, hy, hvalue⟩ := Scaled.fit_of_lt h
    exact ⟨finite y, by rw [hy]; rfl, hasValue_finite.mpr hvalue⟩
  overflows h := by rw [Scaled.fit_of_limit_le h]; rfl

/-- Fitting rounds whatever rounds alike. -/
theorem fit_rounds_of_rounded_eq {x : Scaled} (h : rounded x.value = rounded q) :
    Rounds q (x.fit.map finite) where
  returns := by
    rw [← h]
    exact (fit_rounds x).returns
  overflows := by
    rw [← h]
    exact (fit_rounds x).overflows

/-- A sum is the rounded sum of the numbers. -/
theorem add_rounds (hx : x.HasValue p) (hy : y.HasValue q) : Rounds (p + q) (x.add y) := by
  obtain ⟨a, rfl, rfl⟩ := hasValue_iff.mp hx
  obtain ⟨b, rfl, rfl⟩ := hasValue_iff.mp hy
  change Rounds _ ((a.add b).map finite)
  rw [Scaled.add_eq_fit]
  exact fit_rounds_of_rounded_eq (Scaled.rounded_value_addend a b)

/-- A difference is the rounded difference of the numbers. -/
theorem sub_rounds (hx : x.HasValue p) (hy : y.HasValue q) : Rounds (p - q) (x.sub y) := by
  rw [sub_eq_add_neg]
  exact add_rounds hx hy.opposite

/-- A product is the rounded product of the numbers. -/
theorem mul_rounds (hx : x.HasValue p) (hy : y.HasValue q) : Rounds (p * q) (x.mul y) := by
  obtain ⟨a, rfl, rfl⟩ := hasValue_iff.mp hx
  obtain ⟨b, rfl, rfl⟩ := hasValue_iff.mp hy
  rw [← Scaled.value_exactProduct]
  exact fit_rounds _

/-- A hundredth is the rounded hundredth of the number. -/
theorem hundredth_rounds (hx : x.HasValue p) : Rounds (p / 100) x.hundredth := by
  obtain ⟨a, rfl, rfl⟩ := hasValue_iff.mp hx
  rw [← Scaled.value_exactHundredth]
  exact fit_rounds _

/-- An addition with a representable sum is exact. -/
theorem add_hasValue (hx : x.HasValue p) (hy : y.HasValue q) (hr : Representable (p + q))
    (h : x.add y = .ok z) : z.HasValue (p + q) :=
  (add_rounds hx hy).hasValue_of_representable hr h

/-- An addition with a representable sum below the limit returns. -/
theorem add_ok (hx : x.HasValue p) (hy : y.HasValue q) (hr : Representable (p + q))
    (hl : |p + q| < limit) : ∃ z, x.add y = .ok z :=
  (add_rounds hx hy).returns_of_representable hr hl

/-- A sum of two numbers stays below the limit. -/
theorem abs_lt_limit_of_add (hx : x.HasValue p) (hy : y.HasValue q) (hz : z.HasValue r)
    (h : x.add y = .ok z) : |r| < limit := by
  have hrounds := add_rounds hx hy
  rw [hz.unique (hrounds.hasValue h)]
  exact hrounds.lt_limit h

/-- A subtraction with a representable difference is exact. -/
theorem sub_hasValue (hx : x.HasValue p) (hy : y.HasValue q) (hr : Representable (p - q))
    (h : x.sub y = .ok z) : z.HasValue (p - q) :=
  (sub_rounds hx hy).hasValue_of_representable hr h

/-- A subtraction with a representable difference below the limit returns. -/
theorem sub_ok (hx : x.HasValue p) (hy : y.HasValue q) (hr : Representable (p - q))
    (hl : |p - q| < limit) : ∃ z, x.sub y = .ok z :=
  (sub_rounds hx hy).returns_of_representable hr hl

/-- What is no number spreads to the result of an operation. -/
theorem propagate_ne_finite (h : x.isNaN = true ∨ y.isNaN = true) (c : Scaled) :
    propagate x y ≠ .ok (finite c) := by
  cases x with
  | nan s g p =>
    cases g with
    | true => simp [propagate]
    | false =>
      cases y with
      | nan s' g' p' => cases g' <;> simp [propagate]
      | finite b => simp [propagate]
      | infinite t => simp [propagate]
  | finite a =>
    cases y with
    | nan s' g' p' => cases g' <;> simp [propagate]
    | finite b => simp [isNaN] at h
    | infinite t => simp [isNaN] at h
  | infinite s =>
    cases y with
    | nan s' g' p' => cases g' <;> simp [propagate]
    | finite b => simp [isNaN] at h
    | infinite t => simp [isNaN] at h

/-- Only numbers have a number as their sum. -/
theorem hasValue_of_add (h : x.add y = .ok z) (hz : z.HasValue r) :
    (∃ p, x.HasValue p) ∧ ∃ q, y.HasValue q := by
  obtain ⟨c, rfl, -⟩ := hasValue_iff.mp hz
  cases x with
  | finite a =>
    cases y with
    | finite b => simp
    | infinite t => simp [add] at h
    | nan s g p => exact absurd h (propagate_ne_finite (.inr rfl) c)
  | infinite s =>
    cases y with
    | finite b => simp [add] at h
    | infinite t =>
      simp only [add] at h
      split at h <;> simp at h
    | nan s g p => exact absurd h (propagate_ne_finite (.inr rfl) c)
  | nan s g p => exact absurd h (propagate_ne_finite (.inl rfl) c)

end Decimal

end Passbook
