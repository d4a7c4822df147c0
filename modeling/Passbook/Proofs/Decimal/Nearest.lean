import Passbook.Decimal.Quantize
import Passbook.Proofs.Decimal.Sum

/-!
# The nearest multiple of a power of ten

Rounding to a place gives the whole multiple of that power of ten that is nearest to the number,
and of two equally near ones the one further from zero. It keeps the order of zero and the
number, and it leaves a number alone that is such a multiple already.
-/

namespace Passbook

/-- The whole number nearest to `q`, halves away from zero. -/
def nearestInt (q : ℚ) : Int := if q < 0 then -⌊-q + 1 / 2⌋ else ⌊q + 1 / 2⌋

/-- The whole multiple of `10 ^ e` nearest to `q`, halves away from zero. -/
def nearestMultiple (e : Int) (q : ℚ) : ℚ := nearestInt (q / 10 ^ e) * 10 ^ e

theorem nearestInt_nonneg {q : ℚ} (h : 0 ≤ q) : 0 ≤ nearestInt q := by
  rw [nearestInt, if_neg (not_lt.mpr h)]
  exact Int.floor_nonneg.mpr (by linarith)

/-- The nearest integer is symmetric about zero, as halves are rounded away from it. -/
theorem nearestInt_neg (q : ℚ) : nearestInt (-q) = -nearestInt q := by
  rcases lt_trichotomy q 0 with h | rfl | h
  · simp [nearestInt, h, h.le]
  · norm_num [nearestInt]
  · simp [nearestInt, h, h.le]

/-- The nearest multiple is a whole multiple. -/
theorem nearestMultiple_mem_grid (e : Int) (q : ℚ) : nearestMultiple e q ∈ Decimal.grid e :=
  Decimal.int_mul_mem_grid _ _

@[simp] theorem nearestMultiple_zero (e : Int) : nearestMultiple e 0 = 0 := by
  norm_num [nearestMultiple, nearestInt]

/-- The multiple nearest to a number from zero up is not below zero. -/
theorem nearestMultiple_nonneg {q : ℚ} (h : 0 ≤ q) (e : Int) : 0 ≤ nearestMultiple e q := by
  have hn : (0 : ℚ) ≤ nearestInt (q / 10 ^ e) := by
    exact_mod_cast nearestInt_nonneg (div_nonneg h (by positivity))
  unfold nearestMultiple
  positivity

/-- The nearest integer keeps the order. -/
theorem nearestInt_mono {p q : ℚ} (h : p ≤ q) : nearestInt p ≤ nearestInt q := by
  rcases lt_or_ge q 0 with hq | hq
  · rw [nearestInt, nearestInt, if_pos (h.trans_lt hq), if_pos hq]
    exact neg_le_neg (Int.floor_le_floor (by linarith))
  · rcases lt_or_ge p 0 with hp | hp
    · have hneg := nearestInt_nonneg (neg_nonneg.mpr hp.le)
      rw [nearestInt_neg] at hneg
      exact (neg_nonneg.mp hneg).trans (nearestInt_nonneg hq)
    · rw [nearestInt, nearestInt, if_neg (not_lt.mpr hp), if_neg (not_lt.mpr hq)]
      exact Int.floor_le_floor (by linarith)

/-- Rounding to a place keeps the order. -/
theorem nearestMultiple_mono {p q : ℚ} (e : Int) (h : p ≤ q) :
    nearestMultiple e p ≤ nearestMultiple e q := by
  have hnearest : nearestInt (p / 10 ^ e) ≤ nearestInt (q / 10 ^ e) :=
    nearestInt_mono (by gcongr)
  rw [nearestMultiple, nearestMultiple]
  gcongr

@[simp] theorem nearestInt_intCast (n : Int) : nearestInt n = n := by
  have hnat : ∀ m : Int, ⌊(m : ℚ) + 1 / 2⌋ = m := fun m => by
    rw [← Rounding.nearest_halfUp, Rounding.nearest_intCast]
  rw [nearestInt]
  split
  · rw [← Int.cast_neg, hnat, neg_neg]
  · exact hnat n

/-- A whole multiple of the place is left alone. -/
theorem nearestMultiple_of_mem_grid {e : Int} {q : ℚ} (h : q ∈ Decimal.grid e) :
    nearestMultiple e q = q := by
  obtain ⟨n, rfl⟩ := Decimal.mem_grid_iff.mp h
  have hunit : (10 : ℚ) ^ e ≠ 0 := by positivity
  rw [nearestMultiple, mul_div_cancel_right₀ _ hunit, nearestInt_intCast]

/-- A number from a multiple up is not rounded below that multiple. -/
theorem le_nearestMultiple {e : Int} {p q : ℚ} (hp : p ∈ Decimal.grid e) (h : p ≤ q) :
    p ≤ nearestMultiple e q := by
  have hmono := nearestMultiple_mono e h
  rwa [nearestMultiple_of_mem_grid hp] at hmono

theorem nearestMultiple_neg (e : Int) (q : ℚ) : nearestMultiple e (-q) = -nearestMultiple e q := by
  rw [nearestMultiple, neg_div, nearestInt_neg, Int.cast_neg, neg_mul, nearestMultiple]

/-- A number that reaches a power of ten is rounded to one that does. -/
theorem le_abs_nearestMultiple {e k : Int} {q : ℚ} (he : e ≤ k) (h : (10 : ℚ) ^ k ≤ |q|) :
    (10 : ℚ) ^ k ≤ |nearestMultiple e q| := by
  have hmem := Decimal.ten_pow_mem_grid he
  rcases le_abs.mp h with h | h
  · exact (le_nearestMultiple hmem h).trans (le_abs_self _)
  · rw [← abs_neg, ← nearestMultiple_neg]
    exact (le_nearestMultiple hmem h).trans (le_abs_self _)

/-- Rounding to a place moves a number by at most half a unit. -/
theorem abs_nearestMultiple_sub_le (e : Int) (q : ℚ) : |nearestMultiple e q - q| ≤ 10 ^ e / 2 := by
  have hnonneg : ∀ r : ℚ, 0 ≤ r → |nearestMultiple e r - r| ≤ 10 ^ e / 2 := by
    intro r hr
    have hquotient : 0 ≤ r / 10 ^ e := by positivity
    rw [nearestMultiple, nearestInt, if_neg (not_lt.mpr hquotient), ← Rounding.nearest_halfUp]
    exact Rounding.abs_nearest_mul_sub_le _ r (by positivity)
  rcases le_total 0 q with hq | hq
  · exact hnonneg q hq
  · have hopposite := hnonneg (-q) (neg_nonneg.mpr hq)
    rwa [nearestMultiple_neg, neg_sub_neg, abs_sub_comm] at hopposite

namespace Scaled

open Decimal

/-- Writing a number with a last place rounds its size to that place. -/
theorem magnitude_toPlace (x : Scaled) (e : Int) :
    (Rounding.halfUp.toPlace x e).magnitude = ⌊x.magnitude / 10 ^ e + 1 / 2⌋ * 10 ^ e := by
  have he0 : (10 : ℚ) ^ e ≠ 0 := by positivity
  unfold Rounding.toPlace
  simp only [magnitude]
  split <;> rename_i h
  · have hm := natCast_mul_zpow h x.coefficient
    rw [← hm, mul_div_assoc, div_self he0, mul_one, Nat.pow_eq]
    congr 1
    rw [← Int.cast_natCast, Int.cast_inj, eq_comm, Int.floor_eq_iff]
    push_cast
    constructor <;> linarith
  · have hk : (10 : ℚ) ^ e = 10 ^ (e - x.exponent).toNat * 10 ^ x.exponent := by
      rw [← zpow_natCast, ← zpow_add₀ (by norm_num)]
      congr 1
      omega
    have hx0 : (10 : ℚ) ^ x.exponent ≠ 0 := by positivity
    have hdiv : (x.coefficient : ℚ) * 10 ^ x.exponent / 10 ^ e =
        x.coefficient / 10 ^ (e - x.exponent).toNat := by
      rw [hk, mul_div_mul_right _ _ hx0]
    rw [hdiv, ← Rounding.nearest_halfUp, ← Rounding.drop_eq_nearest, Int.cast_natCast]

/-- Writing a number with a last place gives the nearest multiple. -/
theorem value_toPlace (x : Scaled) (e : Int) :
    (Rounding.halfUp.toPlace x e).value = nearestMultiple e x.value := by
  have hs : (Rounding.halfUp.toPlace x e).negative = x.negative := rfl
  have hm := magnitude_toPlace x e
  have hnear : nearestMultiple e x.magnitude = ⌊x.magnitude / 10 ^ e + 1 / 2⌋ * 10 ^ e := by
    have h0 : 0 ≤ x.magnitude / 10 ^ e := div_nonneg x.magnitude_nonneg (by positivity)
    rw [nearestMultiple, nearestInt, if_neg (not_lt.mpr h0)]
  unfold value
  rw [hs, hm, ← hnear]
  split
  · rw [nearestMultiple_neg]
  · rfl

/-- A quantized number is the nearest multiple, has few enough digits for the context, and is
below its limit. -/
theorem quantize_eq_ok {x y : Scaled} {e : Int} (h : x.quantize e = .ok y) :
    y.value = nearestMultiple e x.value ∧ y.magnitude < 10 ^ (e + precision) ∧
      y.magnitude < limit := by
  unfold quantize at h
  split at h <;> rename_i hc
  · obtain rfl := Except.ok.inj h
    have hx : x.value = 0 := value_eq_zero_iff.mpr hc
    refine ⟨?_, ?_, magnitude_lt_limit_iff.mpr (.inl rfl)⟩
    · rw [hx, nearestMultiple_zero]
      exact value_eq_zero_iff.mpr rfl
    · rw [magnitude_eq_zero_iff.mpr rfl]
      positivity
  · split at h
    · exact nomatch h
    · dsimp only at h
      split at h <;> rename_i hover
      · exact nomatch h
      · obtain rfl := Except.ok.inj h
        obtain ⟨hdigits, hadjusted⟩ := not_or.mp hover
        refine ⟨value_toPlace x e, ?_, magnitude_lt_limit_iff.mpr (.inr (not_lt.mp hadjusted))⟩
        have hc' := (digitCount_le_iff (by norm_num [precision])).mp (not_lt.mp hdigits)
        rw [add_comm, zpow_add₀ (by norm_num), zpow_natCast]
        unfold magnitude
        change _ * (10 : ℚ) ^ e < _
        gcongr
        exact_mod_cast hc'

/-- A quantized number has the chosen last place, and the context keeps its digits. -/
theorem quantize_units {x y : Scaled} {e : Int} (h : x.quantize e = .ok y) :
    y.exponent = e ∧ digitCount y.coefficient ≤ precision := by
  unfold quantize at h
  split at h
  · obtain rfl := Except.ok.inj h
    exact ⟨rfl, (by decide : digitCount 0 ≤ precision)⟩
  · split at h
    · exact nomatch h
    · dsimp only at h
      split at h <;> rename_i hover
      · exact nomatch h
      · obtain rfl := Except.ok.inj h
        exact ⟨rfl, not_lt.mp (not_or.mp hover).1⟩

/-- A number that is not quantized has no result, whatever is wrong with it. -/
theorem quantize_eq_error {x : Scaled} {e : Int} {f : Fault} (h : x.quantize e = .error f) :
    f = .invalidOperation := by
  unfold quantize at h
  split at h
  · exact nomatch h
  · split at h
    · exact (Except.error.inj h).symm
    · dsimp only at h
      split at h
      · exact (Except.error.inj h).symm
      · exact nomatch h

/-- A whole multiple of few enough units is quantized to itself. -/
theorem quantize_of_mem_grid {x : Scaled} {e : Int} (hmem : x.value ∈ grid e)
    (hfew : |x.value| < 10 ^ (e + precision)) (hlimit : |x.value| < limit) :
    ∃ y, x.quantize e = .ok y ∧ y.negative = x.negative ∧ y.value = x.value := by
  by_cases hc : x.coefficient = 0
  · refine ⟨⟨x.negative, 0, e⟩, if_pos hc, rfl, ?_⟩
    rw [value_eq_zero_iff.mpr hc, value_eq_zero_iff.mpr rfl]
  · have hplace := value_toPlace x e
    rw [nearestMultiple_of_mem_grid hmem] at hplace
    have hrounded : (Rounding.halfUp.toPlace x e).coefficient ≠ 0 := by
      rw [ne_eq, ← value_eq_zero_iff, hplace, value_eq_zero_iff]
      exact hc
    have hmagnitude : (Rounding.halfUp.toPlace x e).magnitude = x.magnitude := by
      rw [← abs_value, hplace, abs_value]
    have hlast : e + precision = e + precision - 1 + 1 := by omega
    rw [abs_value, hlast] at hfew
    have hfirst := (adjusted_le_iff hc).mpr hfew
    have hfirst' := (adjusted_le_iff hrounded).mpr (hmagnitude ▸ hfew)
    have hbelow := magnitude_lt_limit_iff.mp (hmagnitude ▸ abs_value x ▸ hlimit)
    have hexponent : (Rounding.halfUp.toPlace x e).exponent = e := rfl
    unfold adjusted at hfirst
    refine ⟨Rounding.halfUp.toPlace x e, ?_, rfl, hplace⟩
    rw [quantize, if_neg hc, if_neg (by omega)]
    refine if_neg ?_
    rintro (hdigits | hover)
    · rw [adjusted, hexponent] at hfirst'
      omega
    · exact absurd (hbelow.resolve_left hrounded) (not_le.mpr hover)

end Scaled

section

open Decimal

variable {e : Int}

/-- A count has few enough digits for the context if it is below the power of ten after them. -/
theorem digitCount_le_precision_iff {n : Nat} {e : Int} :
    digitCount n ≤ precision ↔ (n : ℚ) * 10 ^ e < 10 ^ (e + precision) := by
  rw [digitCount_le_iff (by decide), add_comm e, zpow_add₀ (by norm_num),
    mul_lt_mul_iff_left₀ (by positivity), zpow_natCast]
  exact_mod_cast Iff.rfl

/-- The nearest multiple has few enough units for the context if it is below the power of ten after
them. -/
theorem digitCount_nearestInt_le_iff {q : ℚ} :
    digitCount (nearestInt (q / 10 ^ e)).natAbs ≤ precision ↔
      |nearestMultiple e q| < 10 ^ (e + precision) := by
  have hunit : (0 : ℚ) < 10 ^ e := by positivity
  rw [digitCount_le_precision_iff (e := e), nearestMultiple, abs_mul, abs_of_pos hunit,
    Nat.cast_natAbs, Int.cast_abs]

/-- A number with a last place has the nearest count of its units as its digits. -/
theorem Scaled.toPlace_eq (x : Scaled) (e : Int) :
    Rounding.halfUp.toPlace x e = ⟨x.negative, (nearestInt (x.value / 10 ^ e)).natAbs, e⟩ := by
  have hunit : (0 : ℚ) < 10 ^ e := by positivity
  have hplace : (Rounding.halfUp.toPlace x e).exponent = e := rfl
  have hcount : ((Rounding.halfUp.toPlace x e).coefficient : ℚ) =
      ((nearestInt (x.value / 10 ^ e)).natAbs : ℚ) := by
    have habs := congrArg abs (x.value_toPlace e)
    rw [abs_value, magnitude, hplace, nearestMultiple, abs_mul, abs_of_pos hunit] at habs
    rw [Nat.cast_natAbs, Int.cast_abs]
    exact mul_right_cancel₀ hunit.ne' habs
  have hcoefficient : (Rounding.halfUp.toPlace x e).coefficient =
      (nearestInt (x.value / 10 ^ e)).natAbs := by exact_mod_cast hcount
  exact congrArg (Scaled.mk x.negative · e) hcoefficient

/-- A number whose first digit stands too far above a place is rounded there to one of too many
digits. -/
theorem Scaled.le_abs_nearestMultiple_of_digits {x : Scaled} (hc : x.coefficient ≠ 0)
    (hmany : (precision : Int) < digitCount x.coefficient + (x.exponent - e)) :
    (10 : ℚ) ^ (e + precision) ≤ |nearestMultiple e x.value| := by
  refine le_abs_nearestMultiple (by omega) ?_
  rw [abs_value]
  refine le_trans (zpow_le_zpow_right₀ (by norm_num) ?_) (ten_pow_adjusted_le hc)
  unfold adjusted
  omega

/-- At a place up to the unit, quantizing gives the nearest count of units with the sign of the
number, if the context keeps all its digits. Otherwise there is no result. -/
theorem Scaled.quantize_eq (x : Scaled) (he : e ≤ 0) :
    x.quantize e =
      if digitCount (nearestInt (x.value / 10 ^ e)).natAbs ≤ precision then
        .ok ⟨x.negative, (nearestInt (x.value / 10 ^ e)).natAbs, e⟩
      else .error .invalidOperation := by
  unfold quantize
  by_cases hc : x.coefficient = 0
  · have hzero : nearestInt (x.value / 10 ^ e) = 0 := by
      rw [value_eq_zero_iff.mpr hc, zero_div, ← Int.cast_zero, nearestInt_intCast]
    rw [if_pos hc, hzero, Int.natAbs_zero, if_pos (by decide)]
  · rw [if_neg hc]
    split
    next hmany =>
      have hnot : ¬digitCount (nearestInt (x.value / 10 ^ e)).natAbs ≤ precision := by
        rw [digitCount_nearestInt_le_iff]
        exact not_lt.mpr (le_abs_nearestMultiple_of_digits hc hmany)
      rw [if_neg hnot]
    next =>
      dsimp only
      rw [toPlace_eq]
      by_cases hfew : digitCount (nearestInt (x.value / 10 ^ e)).natAbs ≤ precision
      · rw [if_pos hfew, if_neg]
        unfold adjusted maxExponent
        unfold precision at hfew ⊢
        dsimp only
        omega
      · rw [if_neg hfew, if_pos (.inl (not_le.mp hfew))]

end

namespace Decimal

variable {x y : Decimal} {p r : ℚ} {e : Int}

/-- A quantized number is a whole multiple of few units nearest to the number. -/
theorem quantize_hasValue (hx : x.HasValue p) (h : x.quantize e = .ok y) :
    y.HasValue (nearestMultiple e p) ∧ |nearestMultiple e p| < 10 ^ (e + precision) ∧
      |nearestMultiple e p| < limit := by
  obtain ⟨a, rfl, rfl⟩ := hasValue_iff.mp hx
  obtain ⟨b, hb, rfl⟩ := map_eq_ok_iff.mp h
  obtain ⟨hv, hfew, hlimit⟩ := Scaled.quantize_eq_ok hb
  rw [← Scaled.abs_value, hv] at hfew hlimit
  exact ⟨hasValue_finite.mpr hv, hfew, hlimit⟩

/-- Only a number is quantized to a number. -/
theorem hasValue_of_quantize (h : x.quantize e = .ok y) (hy : y.HasValue r) :
    ∃ p, x.HasValue p := by
  cases x with
  | finite a => exact ⟨a.value, hasValue_finite.mpr rfl⟩
  | infinite s => exact nomatch h
  | nan s g p =>
    obtain ⟨c, rfl, -⟩ := hasValue_iff.mp hy
    exact absurd h (propagate_ne_finite (.inl rfl) c)

end Decimal

/-- A quantum is the power of ten of the places, which has not overflowed, or the least one of the
context. -/
theorem quantumExponent_eq_max {places e : Int} (h : quantumExponent places = .ok e) :
    -places ≤ Decimal.maxExponent ∧ e = max Decimal.leastExponent (-places) := by
  unfold quantumExponent at h
  split at h
  · exact nomatch h
  · split at h
    next => exact nomatch h
    next hle => exact ⟨not_lt.mp hle, (Except.ok.inj h).symm⟩

/-- The context reaches every quantum. -/
theorem leastExponent_le_quantumExponent {places e : Int} (h : quantumExponent places = .ok e) :
    Decimal.leastExponent ≤ e := by
  rw [(quantumExponent_eq_max h).2]
  exact le_max_left _ _

/-- A quantum lies in the range of the context. -/
theorem quantumExponent_le_maxExponent {places e : Int} (h : quantumExponent places = .ok e) :
    e ≤ Decimal.maxExponent := by
  obtain ⟨hle, rfl⟩ := quantumExponent_eq_max h
  exact max_le (by decide) hle

/-- A quantum within the reach of the context is the power of ten of the places. -/
theorem quantumExponent_eq_ok {places e : Int} (h : quantumExponent places = .ok e)
    (hp : Decimal.leastExponent ≤ -places) : e = -places := by
  rw [(quantumExponent_eq_max h).2, max_eq_right hp]

/-- As many places as the context has digits above its least one have a quantum. -/
theorem quantumExponent_of_nonneg {places : Int} (h0 : 0 ≤ places)
    (h : places ≤ Decimal.maxExponent) : quantumExponent places = .ok (-places) := by
  unfold Decimal.maxExponent at h
  rw [quantumExponent, if_neg, if_neg, max_eq_right]
  · unfold Decimal.leastExponent
    omega
  · unfold Decimal.maxExponent
    omega
  · unfold Decimal.maxExponent Decimal.precision
    omega

end Passbook
