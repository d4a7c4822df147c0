import Passbook.Money
import Passbook.Proofs.Decimal.Nearest

/-!
# Amounts and percentages in minor units

An amount rounded to the places of a currency is the nearest whole number of minor units. A
percentage is rounded twice to the context before it is rounded to the minor unit; whatever
these roundings do, a percentage from zero up of an amount from zero up is a whole number of
minor units from zero up, and an infinite amount has none.
-/

namespace Passbook

open Decimal

variable {x y amount percentage : Decimal} {a p r : ℚ} {places : Int}

/-- The number is a whole number of few units of the quantum of so many places. -/
def Quantized (places : Int) (q : ℚ) : Prop :=
  ∃ e, quantumExponent places = .ok e ∧ q ∈ grid e ∧ |q| < 10 ^ (e + precision) ∧ |q| < limit

theorem Quantized.representable (h : Quantized places p) : Representable p := by
  obtain ⟨e, he, hmem, hfew, -⟩ := h
  exact ⟨e, leastExponent_le_quantumExponent he, hmem, hfew⟩

theorem Quantized.lt_limit (h : Quantized places p) : |p| < limit := by
  obtain ⟨e, -, -, -, hlimit⟩ := h
  exact hlimit

/-- Where the context reaches the minor unit, a quantized number is a whole number of them. -/
theorem Quantized.mem_grid (h : Quantized places p) (hplaces : leastExponent ≤ -places) :
    p ∈ grid (-places) := by
  obtain ⟨e, he, hmem, -⟩ := h
  rwa [← quantumExponent_eq_ok he hplaces]

/-- Rounding an amount gives the nearest whole number of units of the quantum. -/
theorem quantizeMoney_hasValue (hx : x.HasValue p) (h : quantizeMoney x places = .ok y) :
    ∃ e, quantumExponent places = .ok e ∧ y.HasValue (nearestMultiple e p) ∧
      Quantized places (nearestMultiple e p) := by
  obtain ⟨e, he, hy⟩ := bind_eq_ok_iff.mp h
  obtain ⟨hvalue, hfew, hlimit⟩ := quantize_hasValue hx hy
  exact ⟨e, he, hvalue, e, he, nearestMultiple_mem_grid _ _, hfew, hlimit⟩

/-- Only a number is rounded to a number. -/
theorem hasValue_of_quantizeMoney (h : quantizeMoney x places = .ok y) (hy : y.HasValue r) :
    ∃ p, x.HasValue p := by
  obtain ⟨e, -, hq⟩ := bind_eq_ok_iff.mp h
  exact hasValue_of_quantize hq hy

/-- What is rounded to places and has a place in the order is a number. -/
theorem isFinite_of_quantizeMoney (h : quantizeMoney x places = .ok y) (hy : y.isNaN = false) :
    x.isFinite = true := by
  obtain ⟨e, -, hquantize⟩ := bind_eq_ok_iff.mp h
  cases x with
  | finite a => rfl
  | infinite s => exact nomatch hquantize
  | nan s signaling payload =>
    cases signaling with
    | true => exact nomatch hquantize
    | false =>
      obtain rfl := Except.ok.inj hquantize
      exact nomatch hy

/-- An amount of money that has a place in the order is a rounded number. -/
theorem Money.isFinite_of {currency : Currency} {m : Money} (h : of currency amount = .ok m)
    (hm : m.amount.isNaN = false) : amount.isFinite = true := by
  obtain ⟨rounded, hrounded, h⟩ := bind_eq_ok_iff.mp h
  obtain rfl := pure_eq_ok_iff.mp h
  exact isFinite_of_quantizeMoney hrounded hm

/-- A percentage of an amount as it is rounded: the product and its hundredth to the context, and
the rest to the quantum. -/
def partOf (e : Int) (a p : ℚ) : ℚ := nearestMultiple e (rounded (rounded (a * p) / 100))

theorem partOf_nonneg (ha : 0 ≤ a) (hp : 0 ≤ p) (e : Int) : 0 ≤ partOf e a p := by
  have hproduct : 0 ≤ rounded (a * p) := rounded_nonneg (by positivity)
  exact nearestMultiple_nonneg (rounded_nonneg (by positivity)) e

theorem partOf_of_mul_eq_zero (h : a * p = 0) (e : Int) : partOf e a p = 0 := by
  rw [partOf, h, rounded_zero, zero_div, rounded_zero, nearestMultiple_zero]

/-- A product of so many digits leaves a percentage of two digits less. -/
theorem le_partOf {e k : Int} (he : e ≤ k) (hk : leastExponent ≤ k)
    (h : (10 : ℚ) ^ (k + 2) ≤ a * p) : (10 : ℚ) ^ k ≤ partOf e a p := by
  have hproduct : (10 : ℚ) ^ (k + 2) ≤ rounded (a * p) :=
    (representable_ten_pow (by omega)).le_rounded h
  have hhundredth : (10 : ℚ) ^ k ≤ rounded (a * p) / 100 := by
    rw [zpow_add₀ (by norm_num)] at hproduct
    rw [le_div_iff₀ (by norm_num)]
    exact_mod_cast hproduct
  exact le_nearestMultiple (ten_pow_mem_grid he) ((representable_ten_pow hk).le_rounded hhundredth)

/-- A percentage of an amount is the rounded one. -/
theorem percentageOf_hasValue (ha : amount.HasValue a) (hp : percentage.HasValue p)
    (h : percentageOf amount percentage places = .ok y) :
    ∃ e, quantumExponent places = .ok e ∧ y.HasValue (partOf e a p) ∧
      Quantized places (partOf e a p) := by
  obtain ⟨product, hproduct, h⟩ := bind_eq_ok_iff.mp h
  obtain ⟨part, hpart, hy⟩ := bind_eq_ok_iff.mp h
  have hm := (mul_rounds ha hp).hasValue hproduct
  exact quantizeMoney_hasValue ((hundredth_rounds hm).hasValue hpart) hy

/-- The context reaches the minor unit of so many places. -/
theorem leastExponent_le_neg (h : places ≤ maxExponent) : leastExponent ≤ -places := by
  unfold maxExponent at h
  unfold leastExponent
  omega

/-- A number is rounded to the nearest count of minor units and keeps its sign, if the context keeps
all digits of the count. Otherwise it is refused. -/
theorem quantizeMoney_finite (h0 : 0 ≤ places) (h : places ≤ maxExponent) (x : Scaled) :
    quantizeMoney (finite x) places =
      if digitCount (nearestInt (x.value / 10 ^ (-places))).natAbs ≤ precision then
        .ok (finite ⟨x.negative, (nearestInt (x.value / 10 ^ (-places))).natAbs, -places⟩)
      else .error .invalidOperation := by
  have he : -places ≤ 0 := by omega
  rw [quantizeMoney, quantumExponent_of_nonneg h0 h, ok_bind, quantize, Scaled.quantize_eq x he]
  split <;> rfl

/-- Where the product and its hundredth are exact, a percentage is rounded to the minor unit
alone. -/
theorem percentageOf_hasValue_nearest (hplaces : places ≤ maxExponent) (ha : amount.HasValue a)
    (hp : percentage.HasValue p) (hproduct : Representable (a * p))
    (hpart : Representable (a * p / 100)) (h : percentageOf amount percentage places = .ok y) :
    y.HasValue (nearestMultiple (-places) (a * p / 100)) := by
  obtain ⟨e, he, hy, -⟩ := percentageOf_hasValue ha hp h
  rwa [partOf, rounded_of_representable hproduct, rounded_of_representable hpart,
    quantumExponent_eq_ok he (leastExponent_le_neg hplaces)] at hy

/-- Percentages of an amount, each rounded to the minor unit alone, are off the percentage at their
sum by at most half a minor unit for each. -/
theorem abs_sum_nearest_sub_le (places : Int) (a : ℚ) (ps : List ℚ) :
    |(ps.map fun p => nearestMultiple (-places) (a * p / 100)).sum - a * ps.sum / 100| ≤
      ps.length * (10 ^ (-places) / 2) := by
  induction ps with
  | nil => simp
  | cons p rest ih =>
    have hround := abs_nearestMultiple_sub_le (-places) (a * p / 100)
    rw [List.map_cons, List.sum_cons, List.sum_cons, List.length_cons, mul_add, add_div,
      add_sub_add_comm]
    refine (abs_add_le _ _).trans ?_
    push_cast
    linarith

/-- A percentage of nothing, and no percentage of anything, is nothing. -/
theorem percentageOf_hasValue_zero (ha : amount.HasValue a) (hp : percentage.HasValue p)
    (hzero : a * p = 0) (h : percentageOf amount percentage places = .ok y) : y.HasValue 0 := by
  obtain ⟨e, -, hy, -⟩ := percentageOf_hasValue ha hp h
  rwa [partOf_of_mul_eq_zero hzero] at hy

/-- A percentage from zero up of an amount from zero up is a quantized number from zero up. -/
theorem percentageOf_nonneg (ha : amount.HasValue a) (hp : percentage.HasValue p) (ha0 : 0 ≤ a)
    (hp0 : 0 ≤ p) (h : percentageOf amount percentage places = .ok y) :
    ∃ r, y.HasValue r ∧ 0 ≤ r ∧ Quantized places r := by
  obtain ⟨e, -, hy, hquantized⟩ := percentageOf_hasValue ha hp h
  exact ⟨_, hy, partOf_nonneg ha0 hp0 e, hquantized⟩

/-- Nothing at all is quantized at every quantum that exists. -/
theorem quantizeMoney_of_zero {e : Int} (hx : x.HasValue 0) (he : quantumExponent places = .ok e) :
    ∃ y, quantizeMoney x places = .ok y := by
  obtain ⟨u, rfl, hu⟩ := hasValue_iff.mp hx
  have hzero : u.quantize e = .ok ⟨u.negative, 0, e⟩ := if_pos (Scaled.value_eq_zero_iff.mp hu)
  refine ⟨finite ⟨u.negative, 0, e⟩, ?_⟩
  rw [quantizeMoney, he, ok_bind, quantize, hzero]
  rfl

/-- A percentage that comes to nothing is found where the quantum exists. -/
theorem percentageOf_of_mul_eq_zero {e : Int} (ha : amount.HasValue a)
    (hp : percentage.HasValue p) (h : a * p = 0) (he : quantumExponent places = .ok e) :
    ∃ y, percentageOf amount percentage places = .ok y := by
  have hsmall : |rounded 0| < limit := by
    rw [rounded_zero, abs_zero]
    exact limit_pos
  obtain ⟨product, hproduct, hm⟩ := (mul_rounds ha hp).returns (by rwa [h])
  rw [h, rounded_zero] at hm
  obtain ⟨part, hpart, hq⟩ := (hundredth_rounds hm).returns (by rwa [zero_div])
  rw [zero_div, rounded_zero] at hq
  obtain ⟨y, hy⟩ := quantizeMoney_of_zero hq he
  exact ⟨y, by rw [percentageOf, hproduct, ok_bind, hpart, ok_bind, hy]⟩

/-- A percentage of a quantized amount above zero is found only for moderate rates. -/
theorem lt_of_percentageOf (ha : amount.HasValue a) (hquantized : Quantized places a) (ha0 : 0 < a)
    (hp : percentage.HasValue p) (h : percentageOf amount percentage places = .ok y) :
    p < (10 : ℚ) ^ (precision + 2 : Int) := by
  by_contra hlarge
  obtain ⟨e, he, hmem, -⟩ := hquantized
  have hleast := leastExponent_le_quantumExponent he
  obtain ⟨e', he', -, e'', he'', -, hfew, -⟩ := percentageOf_hasValue ha hp h
  obtain rfl := Except.ok.inj (he.symm.trans he')
  obtain rfl := Except.ok.inj (he.symm.trans he'')
  have hproduct : (10 : ℚ) ^ (e + precision + 2) ≤ a * p := by
    rw [add_assoc, zpow_add₀ (by norm_num)]
    exact mul_le_mul (ten_pow_le_of_mem_grid hmem ha0) (not_lt.mp hlarge) (by positivity) ha0.le
  have hpart : (10 : ℚ) ^ (e + precision) ≤ partOf e a p :=
    le_partOf (by unfold precision; omega) (by unfold precision; omega) hproduct
  exact absurd (hpart.trans (le_abs_self _)) (not_le.mpr hfew)

/-- Moderate rates are not rounded up to the limit. -/
theorem rounded_lt_limit (hp0 : 0 ≤ p) (h : p < (10 : ℚ) ^ (precision + 2 : Int)) :
    |rounded p| < limit := by
  have hrepresentable : Representable ((10 : ℚ) ^ (precision + 2 : Int)) :=
    representable_ten_pow (by norm_num [precision, leastExponent])
  rw [abs_of_nonneg (rounded_nonneg hp0)]
  refine (hrepresentable.rounded_le h.le).trans_lt ?_
  exact zpow_lt_zpow_right₀ (by norm_num) (by norm_num [precision, maxExponent])

/-- An infinite product is no percentage in minor units. -/
private theorem percentageOf_ne_ok
    (hinf : ∀ product, amount.mul percentage = .ok product → ∃ s, product = infinite s) :
    percentageOf amount percentage places ≠ .ok y := by
  intro h
  obtain ⟨product, hproduct, h⟩ := bind_eq_ok_iff.mp h
  obtain ⟨part, hpart, hy⟩ := bind_eq_ok_iff.mp h
  obtain ⟨s, rfl⟩ := hinf product hproduct
  obtain rfl := Except.ok.inj hpart
  obtain ⟨e, -, hq⟩ := bind_eq_ok_iff.mp hy
  exact nomatch hq

/-- No percentage of an infinite amount is rounded to minor units. -/
theorem percentageOf_infinite_ne_ok {s : Bool} (hp : percentage.HasValue p) :
    percentageOf (infinite s) percentage places ≠ .ok y := by
  obtain ⟨v, rfl, rfl⟩ := hasValue_iff.mp hp
  refine percentageOf_ne_ok fun product hproduct => ?_
  simp only [mul] at hproduct
  split at hproduct
  · exact nomatch hproduct
  · exact ⟨_, (Except.ok.inj hproduct).symm⟩

/-- No infinite percentage of an amount is rounded to minor units. -/
theorem percentageOf_infinite_rate_ne_ok {s : Bool} (ha : amount.HasValue a) :
    percentageOf amount (infinite s) places ≠ .ok y := by
  obtain ⟨u, rfl, rfl⟩ := hasValue_iff.mp ha
  refine percentageOf_ne_ok fun product hproduct => ?_
  simp only [mul] at hproduct
  split at hproduct
  · exact nomatch hproduct
  · exact ⟨_, (Except.ok.inj hproduct).symm⟩

/-- A rate that is not refused for being negative is a number wherever its percentage of an amount
from zero up is found, and that is a quantized number from zero up. -/
theorem percentageOf_of_notNegative (ha : amount.HasValue a) (ha0 : 0 ≤ a)
    (hrate : percentage.NotNegative) (h : percentageOf amount percentage places = .ok y) :
    ∃ p r, percentage.HasValue p ∧ 0 ≤ p ∧ y.HasValue r ∧ 0 ≤ r ∧ Quantized places r := by
  rcases notNegative_iff.mp hrate with ⟨p, hp0, hp⟩ | rfl
  · obtain ⟨r, hr, hr0, hquantized⟩ := percentageOf_nonneg ha hp ha0 hp0 h
    exact ⟨p, r, hp, hp0, hr, hr0, hquantized⟩
  · exact absurd h (percentageOf_infinite_rate_ne_ok ha)

/-- The decimal is a whole number of minor units from zero up. -/
structure Decimal.IsUnits (places : Int) (d : Decimal) : Prop where
  isFinite : d.isFinite = true
  nonneg : 0 ≤ d.value
  mem : d.value ∈ grid (-places)

theorem Decimal.IsUnits.hasValue (h : x.IsUnits places) : x.HasValue x.value :=
  hasValue_value h.isFinite

/-- A number from zero up on the grid of the minor unit is a whole number of units. -/
theorem Decimal.HasValue.isUnits (h : x.HasValue p) (h0 : 0 ≤ p) (hmem : p ∈ grid (-places)) :
    x.IsUnits places := by
  obtain rfl := h.value_eq
  exact ⟨h.isFinite, h0, hmem⟩

/-- Whole minor units add up to whole minor units. -/
theorem sum_isUnits {α : Type} {xs : List α} {f : α → Decimal}
    (h : ∀ x ∈ xs, (f x).IsUnits places) :
    0 ≤ (xs.map fun x => (f x).value).sum ∧ (xs.map fun x => (f x).value).sum ∈ grid (-places) := by
  refine ⟨List.sum_nonneg fun q hq => ?_, list_sum_mem fun q hq => ?_⟩
  · obtain ⟨x, hx, rfl⟩ := List.mem_map.mp hq
    exact (h x hx).nonneg
  · obtain ⟨x, hx, rfl⟩ := List.mem_map.mp hq
    exact (h x hx).mem

end Passbook
