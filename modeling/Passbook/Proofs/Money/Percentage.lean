import Passbook.Proofs.Split.Shares
import Passbook.Proofs.Tax

/-!
# Percentages that are rounded once

A percentage of an amount is rounded three times: the product and its hundredth to the context,
halves to even, and the rest to the minor unit, halves away from zero. If the amount and the rate
together have no more digits than the context keeps, and the places of their last digits are within
reach of it, the first two roundings do nothing. So a percentage is the exact one rounded once, or
it is refused because the context does not keep all its minor units. Taxes and percentage shares
are such percentages.
-/

namespace Passbook

open Decimal

namespace Decimal

variable {x : Decimal} {q : ℚ} {e places : Int}

/-- The outcome of rounding a number once to so many places, halves away from zero: the nearest
multiple with exactly those places, or a refusal if the context does not keep all its digits. -/
def RoundedTo (places : Int) (q : ℚ) (outcome : Except Fault Decimal) : Prop :=
  if digitCount (nearestInt (q / 10 ^ (-places))).natAbs ≤ precision then
    ∃ x, outcome = .ok (finite x) ∧ x.exponent = -places ∧ x.value = nearestMultiple (-places) q
  else outcome = .error .invalidOperation

/-- Rounding to minor units rounds once. -/
theorem quantizeMoney_roundedTo (h0 : 0 ≤ places) (h : places ≤ maxExponent) (hx : x.HasValue q) :
    RoundedTo places q (quantizeMoney x places) := by
  obtain ⟨v, rfl, rfl⟩ := hasValue_iff.mp hx
  rw [quantizeMoney_finite h0 h, RoundedTo]
  split
  · have hvalue := v.value_toPlace (-places)
    rw [Scaled.toPlace_eq] at hvalue
    exact ⟨_, rfl, rfl, hvalue⟩
  · rfl

/-- The hundredth of a number lies on a grid two places finer. -/
theorem hundredth_mem_grid (h : q ∈ grid e) : q / 100 ∈ grid (e - 2) := by
  obtain ⟨n, rfl⟩ := mem_grid_iff.mp h
  rw [mem_grid_iff]
  exact ⟨n, by rw [zpow_sub₀ (by norm_num), mul_div_assoc]; norm_num⟩

/-- A hundredth has the digits of the number. -/
theorem representable_hundredth (he : leastExponent ≤ e - 2) (h : q ∈ grid e)
    (hlt : |q| < 10 ^ (e + precision)) : Representable (q / 100) := by
  refine representable_of_mem_grid he (hundredth_mem_grid h) ?_
  have hshift : (10 : ℚ) ^ (e - 2 + precision) = 10 ^ (e + precision) / 100 := by
    rw [show e - 2 + (precision : Int) = e + precision - 2 by omega, zpow_sub₀ (by norm_num)]
    norm_num
  rw [hshift, abs_div, abs_of_pos (show (0 : ℚ) < 100 by norm_num)]
  gcongr

end Decimal

namespace Scaled

variable {x y : Scaled}

theorem mul_mem_grid (x y : Scaled) : x.value * y.value ∈ grid (x.exponent + y.exponent) := by
  rw [← value_exactProduct]
  exact (exactProduct x y).value_mem_grid

/-- Two numbers that have together at most as many digits as the context keeps, and last digits
within reach of it. -/
structure Moderate (x y : Scaled) : Prop where
  digits : digitCount x.coefficient + digitCount y.coefficient ≤ precision
  left : -400000 ≤ x.exponent ∧ x.exponent ≤ 400000
  right : -400000 ≤ y.exponent ∧ y.exponent ≤ 400000

namespace Moderate

variable (h : Moderate x y)
include h

/-- The context keeps all digits of the product. -/
theorem digitCount_exactProduct : digitCount (exactProduct x y).coefficient ≤ precision := by
  rw [digitCount_le_iff (by decide)]
  calc x.coefficient * y.coefficient
      < 10 ^ digitCount x.coefficient * 10 ^ digitCount y.coefficient :=
        Nat.mul_lt_mul'' (lt_ten_pow_digitCount _) (lt_ten_pow_digitCount _)
    _ = 10 ^ (digitCount x.coefficient + digitCount y.coefficient) := (pow_add _ _ _).symm
    _ ≤ 10 ^ precision := Nat.pow_le_pow_right (by norm_num) h.digits

theorem abs_mul_lt : |x.value * y.value| < 10 ^ (x.exponent + y.exponent + precision) := by
  rw [← value_exactProduct, abs_value]
  exact digitCount_le_precision_iff.mp h.digitCount_exactProduct

/-- The context reaches the last place of the product and of its hundredth, and has room above. -/
theorem place_within : leastExponent + 2 ≤ x.exponent + y.exponent ∧
    x.exponent + y.exponent + precision ≤ maxExponent + 1 := by
  have hleft := h.left
  have hright := h.right
  unfold leastExponent maxExponent precision
  omega

/-- The product is not rounded. -/
theorem representable_mul : Representable (x.value * y.value) := by
  have hplace := h.place_within.1
  exact representable_of_mem_grid (by omega) (mul_mem_grid x y) h.abs_mul_lt

/-- Neither is its hundredth. -/
theorem representable_part : Representable (x.value * y.value / 100) := by
  have hplace := h.place_within.1
  exact representable_hundredth (by omega) (mul_mem_grid x y) h.abs_mul_lt

theorem mul_lt_limit : |x.value * y.value| < limit :=
  h.abs_mul_lt.trans_le (zpow_le_zpow_right₀ (by norm_num) h.place_within.2)

theorem part_lt_limit : |x.value * y.value / 100| < limit := by
  rw [abs_div, abs_of_pos (show (0 : ℚ) < 100 by norm_num)]
  exact (div_le_self (abs_nonneg _) (by norm_num)).trans_lt h.mul_lt_limit

end Moderate

end Scaled

variable {x y : Scaled} {places : Int}

/-- A percentage of moderate numbers is rounded once. -/
theorem percentageOf_roundedTo (h : x.Moderate y) (h0 : 0 ≤ places)
    (hplaces : places ≤ maxExponent) :
    RoundedTo places (x.value * y.value / 100) (percentageOf (finite x) (finite y) places) := by
  have hx : (finite x).HasValue x.value := hasValue_finite.mpr rfl
  have hy : (finite y).HasValue y.value := hasValue_finite.mpr rfl
  have hproduct := rounded_of_representable h.representable_mul
  have hpart := rounded_of_representable h.representable_part
  obtain ⟨product, hproduct', hvalue⟩ :=
    (mul_rounds hx hy).returns (by rw [hproduct]; exact h.mul_lt_limit)
  rw [hproduct] at hvalue
  obtain ⟨part, hpart', hvalue'⟩ :=
    (hundredth_rounds hvalue).returns (by rw [hpart]; exact h.part_lt_limit)
  rw [hpart] at hvalue'
  rw [percentageOf, hproduct', ok_bind, hpart', ok_bind]
  exact quantizeMoney_roundedTo h0 hplaces hvalue'

/-- So is a component of a tax. -/
theorem Tax.IsComponent.roundedTo {fee : Fee} {c : ComponentAmount} (hc : IsComponent fee c)
    (h : x.Moderate y) (h0 : 0 ≤ fee.currency.decimalPlaces)
    (hplaces : fee.currency.decimalPlaces ≤ maxExponent) (hfee : fee.amount = .finite x)
    (hrate : c.percentage = .finite y) :
    RoundedTo fee.currency.decimalPlaces (x.value * y.value / 100) (.ok c.amount) := by
  have hrounded := percentageOf_roundedTo h h0 hplaces
  rwa [← hfee, ← hrate, hc.amount] at hrounded

/-- So is the share of a percentage split. -/
theorem Split.roundedTo_of_share {s : Split} {amount : Decimal} (h : x.Moderate y)
    (h0 : 0 ≤ places) (hplaces : places ≤ maxExponent) (hs : s.isPercentage = true)
    (hvalue : s.value = .finite y) (hshare : s.share (.finite x) places = .ok amount) :
    RoundedTo places (x.value * y.value / 100) (.ok amount) := by
  have hrounded := percentageOf_roundedTo h h0 hplaces
  rwa [← hvalue, share_percentage hs hshare] at hrounded

/-- A percentage of moderate numbers is the exact one rounded once to the minor unit, halves away
from zero, or it is refused because that has more digits than the context keeps. So every component
of a tax and every percentage share, before anything is taken back from it, is the exact one rounded
once. -/
theorem percentages_rounded_once (x y : Scaled) (h : x.Moderate y) :
    (∀ places, 0 ≤ places → places ≤ maxExponent →
      RoundedTo places (x.value * y.value / 100) (percentageOf (finite x) (finite y) places)) ∧
    (∀ (fee : Fee) (rate : Datum) (components : List TaxComponent) (exempt backdated : Bool)
      (tax : Tax), fee.amount = .finite x →
      0 ≤ fee.currency.decimalPlaces → fee.currency.decimalPlaces ≤ maxExponent →
      (Tax.single fee rate exempt backdated = .ok tax ∨
        Tax.group fee components exempt backdated = .ok tax) →
      ∀ c ∈ tax.components, c.percentage = .finite y →
        RoundedTo fee.currency.decimalPlaces (x.value * y.value / 100) (.ok c.amount)) ∧
    ∀ (places : Int) (active : List Split) (amounts : List Decimal),
      0 ≤ places → places ≤ maxExponent → Split.shares (.finite x) places active = .ok amounts →
      List.Forall₂ (fun s amount => s.isPercentage = true → s.value = .finite y →
        RoundedTo places (x.value * y.value / 100) (.ok amount)) active amounts := by
  refine ⟨fun places => percentageOf_roundedTo h, ?_, ?_⟩
  · intro fee rate components exempt backdated tax hfee h0 hplaces htax c hc hrate
    have hcomponent : Tax.IsComponent fee c := by
      rcases htax with hsingle | hgroup
      · exact Tax.isComponent_of_single hsingle c hc
      · exact Tax.isComponent_of_group hgroup c hc
    exact hcomponent.roundedTo h h0 hplaces hfee hrate
  · intro places active amounts h0 hplaces hshares
    refine (Split.shares_eq_ok hshares).imp fun s amount hshare hs hvalue => ?_
    exact Split.roundedTo_of_share h h0 hplaces hs hvalue hshare

/-- An amount of 25 digits that is paid back. -/
def longRefund : Scaled := ⟨true, 9999999999999999999999999, -2⟩

/-- A fee of it in a currency with four places. -/
def longFee : Fee := ⟨"F1", .finite longRefund, none, ⟨"CLF", 4⟩⟩

/-- Half a percent more than half. -/
def overHalf : Scaled := ⟨false, 505, -1⟩

/-- An agent who is owed that percentage. -/
def overHalfSplit : Split := ⟨"agent", .percentage, .finite overHalf, true, none⟩

/-- The two numbers have together as many digits as the context keeps. The percentage ends in half a
unit of the fourth place and goes away from zero there, as a tax and as a share. It is exact with
five places, and with six it is refused. -/
theorem overHalf_of_longRefund :
    ([4, 5, 6].map fun places =>
      percentageOf (.finite longRefund) (.finite overHalf) places) =
        [.ok (.finite ⟨true, 504999999999999999999999950, -4⟩),
          .ok (.finite ⟨true, 5049999999999999999999999495, -5⟩),
          .error .invalidOperation] ∧
      (∀ places ∈ [4, 5, 6], RoundedTo places (longRefund.value * overHalf.value / 100)
        (percentageOf (.finite longRefund) (.finite overHalf) places)) ∧
      (∃ tax c, Tax.single longFee (.decimal (.finite overHalf)) = .ok tax ∧
        tax.components = [c] ∧ c.amount = .finite ⟨true, 504999999999999999999999950, -4⟩ ∧
        RoundedTo 4 (longRefund.value * overHalf.value / 100) (.ok c.amount)) ∧
      ∃ amount, Split.shares (.finite longRefund) 4 [overHalfSplit] = .ok [amount] ∧
        amount = .finite ⟨true, 504999999999999999999999950, -4⟩ ∧
        RoundedTo 4 (longRefund.value * overHalf.value / 100) (.ok amount) := by
  obtain ⟨hplaces, htax, hshares⟩ := percentages_rounded_once longRefund overHalf
    ⟨by decide, by decide, by decide⟩
  refine ⟨rfl, ?_, ?_, ?_⟩
  · intro places hmem
    fin_cases hmem
    · exact hplaces 4 (by decide) (by decide)
    · exact hplaces 5 (by decide) (by decide)
    · exact hplaces 6 (by decide) (by decide)
  · exact ⟨_, _, rfl, rfl, rfl, htax longFee (.decimal (.finite overHalf)) [] false false _ rfl
      (by decide) (by decide) (.inl rfl) _ (List.mem_singleton_self _) rfl⟩
  · have hshare := hshares 4 [overHalfSplit] _ (by decide) (by decide) rfl
    exact ⟨_, rfl, rfl, List.forall₂_cons.mp hshare |>.1 rfl rfl⟩

end Passbook
