import Passbook.Proofs.Money.MinorUnit
import Passbook.Proofs.Split.Shares

/-!
# Percentages keep the order

A percentage is rounded three times, and every rounding keeps the order of numbers. So a smaller
percentage of a smaller amount is no larger, whatever digits are lost and however small the numbers
are, and it is not refused where the larger one is not. At most a hundred percent of an amount is at
most the amount, if none of the roundings can change that one: it has to be a whole number of few
enough units. The unit is the minor unit as long as the context reaches it. Below the least place of
the context a percentage is still rounded to that place, and can come out above the amount.
-/

namespace Passbook

open Decimal

variable {amount amount' percentage percentage' y z : Decimal} {places e : Int} {a p : ℚ}

/-- The power of ten of the unit that amounts of so many places are rounded to: the minor unit, or
the least place of the context where it does not reach that one. -/
def unitExponent (places : Int) : Int := max leastExponent (-places)

theorem quantumExponent_eq_unitExponent (h : quantumExponent places = .ok e) :
    e = unitExponent places := (quantumExponent_eq_max h).2

/-- At most a hundred percent of a whole number of few units is no larger, as neither the product
with a hundred nor the number itself is rounded. -/
theorem partOf_le (he : leastExponent ≤ e) (hmem : a ∈ grid e) (hfew : a < 10 ^ (e + precision))
    (h0 : 0 ≤ a) (hp : p ≤ 100) : partOf e a p ≤ a := by
  have hsize : |a| < 10 ^ (e + precision) := by rwa [abs_of_nonneg h0]
  have hhundred : (10 : ℚ) ^ (e + 2 + precision) = 10 ^ (e + precision) * 100 := by
    rw [show e + 2 + (precision : Int) = e + precision + 2 by omega, zpow_add₀ (by norm_num)]
    norm_num
  have hrepresentable : Representable (a * 100) := by
    refine representable_of_mem_grid (e := e + 2) (by omega) ?_ ?_
    · obtain ⟨n, rfl⟩ := mem_grid_iff.mp hmem
      rw [mem_grid_iff]
      exact ⟨n, by rw [zpow_add₀ (by norm_num)]; norm_num [mul_assoc]⟩
    · rw [hhundred, abs_mul, abs_of_pos (show (0 : ℚ) < 100 by norm_num)]
      gcongr
  have hproduct : rounded (a * p) ≤ a * 100 := hrepresentable.rounded_le (by gcongr)
  have hpart : rounded (rounded (a * p) / 100) ≤ a :=
    (representable_of_mem_grid he hmem hsize).rounded_le (by linarith)
  have hunits := nearestMultiple_mono e hpart
  rwa [nearestMultiple_of_mem_grid hmem] at hunits

/-- A smaller percentage of a smaller amount is found where the larger one is, and it is no
larger. -/
theorem percentageOf_exists_atMost (h : amount.AtMost amount') (h' : percentage.AtMost percentage')
    (h0 : 0 ≤ amount.value) (hp0 : 0 ≤ percentage.value)
    (hz : percentageOf amount' percentage' places = .ok z) :
    ∃ y, percentageOf amount percentage places = .ok y ∧ 0 ≤ y.value ∧ y.AtMost z := by
  obtain ⟨product', hproduct', hz⟩ := bind_eq_ok_iff.mp hz
  obtain ⟨part', hpart', hz⟩ := bind_eq_ok_iff.mp hz
  obtain ⟨product, hproduct, hproduct0, hproducts⟩ :=
    (mul_rounds h.hasValue_left h'.hasValue_left).exists_atMost
      (mul_rounds h.hasValue_right h'.hasValue_right) (mul_nonneg h0 hp0)
      (mul_le_mul h.le h'.le hp0 (h0.trans h.le)) hproduct'
  obtain ⟨part, hpart, hpart0, hparts⟩ :=
    (hundredth_rounds hproducts.hasValue_left).exists_atMost
      (hundredth_rounds hproducts.hasValue_right) (div_nonneg hproduct0 (by norm_num))
      (div_le_div_of_nonneg_right hproducts.le (by norm_num)) hpart'
  obtain ⟨y, hy⟩ := quantizeMoney_of_abs_le hparts.hasValue_left hparts.hasValue_right
    (abs_le_abs_of_nonneg hpart0 hparts.le) hz
  obtain ⟨e, -, hvalue, -⟩ := quantizeMoney_hasValue hparts.hasValue_left hy
  refine ⟨y, by rw [percentageOf, hproduct, ok_bind, hpart, ok_bind, hy], ?_,
    hparts.quantizeMoney y z hy hz⟩
  rw [hvalue.value_eq]
  exact nearestMultiple_nonneg hpart0 e

/-- At most a hundred percent of a whole number of few units is no larger. -/
theorem percentageOf_atMost_amount (h : amount.isFinite = true) (h' : percentage.isFinite = true)
    (h0 : 0 ≤ amount.value) (hp : percentage.value ≤ 100)
    (hmem : amount.value ∈ grid (unitExponent places))
    (hfew : amount.value < 10 ^ (unitExponent places + precision))
    (hy : percentageOf amount percentage places = .ok y) : y.AtMost amount := by
  obtain ⟨e, he, hvalue, -⟩ := percentageOf_hasValue (hasValue_value h) (hasValue_value h') hy
  obtain rfl := quantumExponent_eq_unitExponent he
  exact hvalue.atMost (hasValue_value h) (partOf_le (le_max_left _ _) hmem hfew h0 hp)

/-- Where the larger percentage of the larger amount is found, so is the smaller one of the smaller
amount, which is from zero up and no larger. At most a hundred percent of an amount is at most the
amount, if that is a whole number of few enough units, and so is the share of a split. -/
theorem percentageOf_ordered (amount amount' percentage percentage' : Decimal) (places : Int)
    (hamount : amount.AtMost amount') (hpercentage : percentage.AtMost percentage')
    (h0 : 0 ≤ amount.value) (hp0 : 0 ≤ percentage.value) :
    (∀ z, percentageOf amount' percentage' places = .ok z →
      ∃ y, percentageOf amount percentage places = .ok y ∧ 0 ≤ y.value ∧ y.AtMost z) ∧
    (percentage.value ≤ 100 → amount.value ∈ grid (unitExponent places) →
      amount.value < 10 ^ (unitExponent places + precision) →
      (∀ y, percentageOf amount percentage places = .ok y → y.AtMost amount) ∧
      ∀ (s : Split) (y : Decimal), s.isPercentage = true → s.value = percentage →
        s.share amount places = .ok y → y.AtMost amount) := by
  refine ⟨fun z => percentageOf_exists_atMost hamount hpercentage h0 hp0, ?_⟩
  intro hp hmem hfew
  have hbound : ∀ y, percentageOf amount percentage places = .ok y → y.AtMost amount := fun y =>
    percentageOf_atMost_amount hamount.left hpercentage.left h0 hp hmem hfew
  refine ⟨hbound, fun s y hs hvalue hshare => hbound y ?_⟩
  rw [← hvalue]
  exact Split.share_percentage hs hshare

/-- The largest fee in cents. -/
def largestFee : Decimal := .finite ⟨false, 9999999999999999999999999999, -2⟩

/-- A percentage below a hundred with more digits than the context keeps. -/
def almostAll : Decimal := .finite ⟨false, 99999999999999999999999999999, -27⟩

/-- Someone who is owed that percentage. -/
def almostAllSplit : Split := ⟨"agent", .percentage, almostAll, true, none⟩

/-- The product is rounded up until the percentage is the whole fee. It is no more than that, and no
more than a hundred percent. -/
theorem almostAll_of_largestFee :
    percentageOf largestFee almostAll = .ok largestFee ∧
      almostAllSplit.share largestFee 2 = .ok largestFee ∧ almostAll.lt 100 = .ok true ∧
      (∃ y, percentageOf largestFee almostAll = .ok y ∧ 0 ≤ y.value ∧ y.AtMost largestFee) ∧
      largestFee.AtMost largestFee := by
  have hfee : largestFee.AtMost largestFee := .refl rfl
  have hall : almostAll.AtMost 100 := .of_le rfl rfl (by decide)
  have hunit : unitExponent 2 = -2 := by decide
  have hmem : largestFee.value ∈ grid (unitExponent 2) := by
    rw [hunit]
    exact Scaled.value_mem_grid ⟨false, 9999999999999999999999999999, -2⟩
  have hfew : largestFee.value < 10 ^ (unitExponent 2 + precision : Int) := by
    norm_num [hunit, largestFee, precision]
  obtain ⟨horder, hbound⟩ := percentageOf_ordered largestFee largestFee almostAll 100 2 hfee hall
    (by norm_num [largestFee]) (by norm_num [almostAll])
  obtain ⟨-, hshare⟩ := hbound (hall.le.trans_eq hasValue_hundred.value_eq) hmem hfew
  exact ⟨rfl, rfl, rfl, horder largestFee rfl, hshare almostAllSplit largestFee rfl rfl rfl⟩

/-- Six units one place below the least one of the context. -/
def dust : Decimal := .finite ⟨false, 6, -1000027⟩

/-- One unit of the least place of the context. -/
def leastUnit : Decimal := .finite ⟨false, 1, -1000026⟩

/-- All of an amount below the least place of the context is rounded up to that place. The amount is
a whole number of minor units, of which its currency has so many places, and it is exceeded. -/
theorem all_of_dust_exceeds :
    0 ≤ dust.value ∧ dust.value ∈ grid (-1000027) ∧
      dust.value < 10 ^ (-1000027 + precision : Int) ∧
      percentageOf dust 100 1000027 = .ok leastUnit ∧ ¬leastUnit.AtMost dust := by
  have hunit : (0 : ℚ) < 10 ^ (-1000027 : Int) := by positivity
  have hvalue : dust.value = 6 * 10 ^ (-1000027 : Int) := value_finite_unsigned 6 (-1000027)
  refine ⟨by rw [hvalue]; positivity, Scaled.value_mem_grid ⟨false, 6, -1000027⟩, ?_, rfl, ?_⟩
  · rw [hvalue, add_comm, zpow_add₀ (by norm_num)]
    gcongr
    norm_num [precision]
  · intro h
    have hlt : dust.lt leastUnit = .ok true := rfl
    rw [lt_eq h.hasValue_right h.hasValue_left] at hlt
    exact absurd h.le (not_le.mpr (of_decide_eq_true (Except.ok.inj hlt)))

end Passbook
