import Passbook.Proofs.Limit.Enforced
import Passbook.Proofs.Money.Total

/-!
# Exact verdicts

A check rounds both limits and the balance after the deposit. For money of one currency, and limits
that are whole numbers of its minor unit, no rounding does anything: each of the three numbers is
exact, or it has more digits than the context keeps and the check stops. So a check that answers
lists the limits that the amount and the exact sum are above, and no others.
-/

namespace Passbook

open Decimal

/-- At the minor unit of the currency the number has no more digits than the context keeps. -/
def Currency.Fits (currency : Currency) (q : ℚ) : Prop :=
  |q| < 10 ^ (-currency.decimalPlaces + precision)

instance (currency : Currency) (q : ℚ) : Decidable (currency.Fits q) :=
  inferInstanceAs (Decidable (|q| < 10 ^ (-currency.decimalPlaces + precision)))

/-- A whole number of minor units fits exactly if the context keeps all digits of their count. -/
theorem Currency.fits_units_iff {currency : Currency} {units : Int} :
    currency.Fits (units * 10 ^ (-currency.decimalPlaces)) ↔
      digitCount units.natAbs ≤ precision := by
  rw [digitCount_le_precision_iff (e := -currency.decimalPlaces), Currency.Fits, abs_mul,
    abs_of_pos (show (0 : ℚ) < 10 ^ (-currency.decimalPlaces) by positivity), Nat.cast_natAbs,
    Int.cast_abs]

namespace Money

variable {currency : Currency} {m n : Money} {amount : Decimal} {datum : Datum} {p q sum : ℚ}
  {outcome : Except Error Money}

/-- A sum that fits is returned. -/
theorem ExactOrRefused.returns (h : ExactOrRefused currency sum outcome)
    (hfits : currency.Fits sum) : ∃ m, outcome = .ok m ∧ m.IsExactly currency sum := by
  obtain ⟨units, rfl, h⟩ := h
  rwa [if_pos (Currency.fits_units_iff.mp hfits)] at h

/-- A sum that does not fit is refused. -/
theorem ExactOrRefused.refuses (h : ExactOrRefused currency sum outcome)
    (hfits : ¬currency.Fits sum) : outcome = .error (.arithmetic .invalidOperation) := by
  obtain ⟨units, rfl, h⟩ := h
  rwa [if_neg fun hfew => hfits (Currency.fits_units_iff.mpr hfew)] at h

section

variable (h0 : 0 ≤ currency.decimalPlaces)
include h0

/-- What fits stays below the limit of the context. -/
theorem lt_limit_of_fits (hfits : currency.Fits q) : |q| < limit := by
  refine hfits.trans_le (zpow_le_zpow_right₀ (by norm_num) ?_)
  unfold maxExponent precision
  omega

variable (h : currency.decimalPlaces ≤ maxExponent)
include h

/-- A whole number of minor units is made into money exactly, or it is refused. -/
theorem exactOrRefused_of (hamount : amount.HasValue q)
    (hmem : q ∈ grid (-currency.decimalPlaces)) :
    ExactOrRefused currency q (liftM (of currency amount)) := by
  obtain ⟨x, rfl, rfl⟩ := hasValue_iff.mp hamount
  obtain ⟨units, hunits⟩ := mem_grid_iff.mp hmem
  refine ⟨units, hunits, ?_⟩
  rw [of_finite h0 h]
  split
  next few =>
    have hfits : currency.Fits x.value := by rwa [hunits, Currency.fits_units_iff]
    obtain ⟨y, hy, -, hvalue⟩ :=
      Scaled.quantize_of_mem_grid hmem hfits (lt_limit_of_fits h0 hfits)
    refine ⟨⟨.finite y, currency⟩, by rw [hy]; rfl, rfl, hasValue_finite.mpr hvalue, y, rfl, ?_⟩
    exact (Scaled.quantize_units hy).1
  next many =>
    cases hquantize : x.quantize (-currency.decimalPlaces) with
    | error f =>
      rw [Scaled.quantize_eq_error hquantize]
      rfl
    | ok y =>
      obtain ⟨hvalue, hfew, -⟩ := Scaled.quantize_eq_ok hquantize
      rw [nearestMultiple_of_mem_grid hmem] at hvalue
      rw [← Scaled.abs_value, hvalue, hunits] at hfew
      exact absurd (Currency.fits_units_iff.mp hfew) many

/-- An amount that was made in a currency and is a number is exactly that number. -/
theorem isExactly_of_ofDatum (hd : ofDatum currency datum = .ok m)
    (hm : m.amount.isFinite = true) : m.IsExactly currency m.amount.value := by
  obtain ⟨u, rfl⟩ := exists_units_of_ofDatum h0 h hd (isNaN_of_isFinite hm)
  rw [value_money]
  exact money_isExactly u currency

/-- Two amounts that were made in a currency and are numbers are added exactly, or the sum is
refused. -/
theorem exactOrRefused_plus_of_ofDatum {datum' : Datum} (hd : ofDatum currency datum = .ok m)
    (hm : m.amount.isFinite = true) (hd' : ofDatum currency datum' = .ok n)
    (hn : n.amount.isFinite = true) :
    ExactOrRefused currency (m.amount.value + n.amount.value) (m.plus n) := by
  obtain ⟨u, rfl⟩ := exists_units_of_ofDatum h0 h hd (isNaN_of_isFinite hm)
  obtain ⟨v, rfl⟩ := exists_units_of_ofDatum h0 h hd' (isNaN_of_isFinite hn)
  have hsum := exactOrRefused_plus h0 h u v
  rwa [Int.cast_add, add_mul, ← value_money, ← value_money] at hsum

end

/-- Exact amounts of one currency compare as the numbers. -/
theorem exceeds_of_isExactly (hm : m.IsExactly currency p) (hn : n.IsExactly currency q) :
    m.exceeds n = .ok (decide (q < p)) := by
  rw [exceeds, requireSameCode, hm.currency_eq, hn.currency_eq, if_pos rfl, ok_bind,
    lt_eq hn.value hm.value]
  rfl

end Money

namespace LimitProfile

variable {profile : LimitProfile} {currency : Currency} {balance amount : Money} {limit : Decimal}

/-- Limits and money in whole minor units of one currency. -/
structure WholeUnits (profile : LimitProfile) (currency : Currency) (balance amount : Money) :
    Prop where
  places_nonneg : 0 ≤ currency.decimalPlaces
  places_le : currency.decimalPlaces ≤ 999999
  code : currency.code = profile.currency.code
  maxSingleDeposit : profile.maxSingleDeposit.isFinite = true ∧
    profile.maxSingleDeposit.value ∈ grid (-currency.decimalPlaces)
  cumulativeBalance : profile.cumulativeBalance.isFinite = true ∧
    profile.cumulativeBalance.value ∈ grid (-currency.decimalPlaces)
  /-- The balance was made in the currency, from a value of any type. -/
  balance : (∃ datum, Money.ofDatum currency datum = .ok balance) ∧ balance.amount.isFinite = true
  /-- So was the amount. -/
  amount : (∃ datum, Money.ofDatum currency datum = .ok amount) ∧ amount.amount.isFinite = true

namespace WholeUnits

variable (h : profile.WholeUnits currency balance amount)
include h

theorem isExactly_balance : balance.IsExactly currency balance.amount.value := by
  obtain ⟨⟨datum, hdatum⟩, hfinite⟩ := h.balance
  exact Money.isExactly_of_ofDatum h.places_nonneg h.places_le hdatum hfinite

theorem isExactly_amount : amount.IsExactly currency amount.amount.value := by
  obtain ⟨⟨datum, hdatum⟩, hfinite⟩ := h.amount
  exact Money.isExactly_of_ofDatum h.places_nonneg h.places_le hdatum hfinite

/-- The balance after the deposit is exact, or there is none. -/
theorem exactOrRefused_plus : Money.ExactOrRefused currency
    (balance.amount.value + amount.amount.value) (balance.plus amount) := by
  obtain ⟨⟨datum, hdatum⟩, hfinite⟩ := h.balance
  obtain ⟨⟨datum', hdatum'⟩, hfinite'⟩ := h.amount
  exact Money.exactOrRefused_plus_of_ofDatum h.places_nonneg h.places_le hdatum hfinite hdatum'
    hfinite'

/-- A limit in minor units of the currency is exact, or there is none. -/
theorem exactOrRefused_limitFor {money : Money} (hmoney : money.currency = currency)
    (hlimit : limit.isFinite = true ∧ limit.value ∈ grid (-currency.decimalPlaces)) :
    Money.ExactOrRefused currency limit.value (profile.limitFor limit money) := by
  rw [limitFor, hmoney, Money.requireSameCode, if_pos h.code, ok_bind]
  exact Money.exactOrRefused_of h.places_nonneg h.places_le (hasValue_value hlimit.1) hlimit.2

/-- A check for which both limits and the sum fit lists the limits that are exceeded. -/
theorem breaches_of_fits (hsingle : currency.Fits profile.maxSingleDeposit.value)
    (hcumulative : currency.Fits profile.cumulativeBalance.value)
    (hsum : currency.Fits (balance.amount.value + amount.amount.value)) :
    profile.breaches balance amount =
      .ok (LimitBreach.broken (profile.maxSingleDeposit.value < amount.amount.value)
        (profile.cumulativeBalance.value < balance.amount.value + amount.amount.value)) := by
  obtain ⟨single, hlimit, hsingleValue⟩ := (h.exactOrRefused_limitFor
    h.isExactly_amount.currency_eq h.maxSingleDeposit).returns hsingle
  obtain ⟨cumulative, hlimit', hcumulativeValue⟩ := (h.exactOrRefused_limitFor
    h.isExactly_balance.currency_eq h.cumulativeBalance).returns hcumulative
  obtain ⟨after, hafter, hafterValue⟩ := h.exactOrRefused_plus.returns hsum
  rw [breaches, hlimit, ok_bind, hlimit', ok_bind,
    Money.exceeds_of_isExactly h.isExactly_amount hsingleValue, ok_bind, hafter, ok_bind,
    Money.exceeds_of_isExactly hafterValue hcumulativeValue, ok_bind]
  simp only [LimitBreach.broken, decide_eq_true_eq]
  rfl

/-- A check stops at the first of the limits and the sum that does not fit. -/
theorem breaches_of_not_fits
    (hfits : ¬(currency.Fits profile.maxSingleDeposit.value ∧
      currency.Fits profile.cumulativeBalance.value ∧
      currency.Fits (balance.amount.value + amount.amount.value))) :
    profile.breaches balance amount = .error (.arithmetic .invalidOperation) := by
  have hlimitSingle :=
    h.exactOrRefused_limitFor h.isExactly_amount.currency_eq h.maxSingleDeposit
  have hlimitCumulative :=
    h.exactOrRefused_limitFor h.isExactly_balance.currency_eq h.cumulativeBalance
  rw [breaches]
  by_cases hsingle : currency.Fits profile.maxSingleDeposit.value
  · obtain ⟨single, hlimit, hsingleValue⟩ := hlimitSingle.returns hsingle
    rw [hlimit, ok_bind]
    by_cases hcumulative : currency.Fits profile.cumulativeBalance.value
    · obtain ⟨cumulative, hlimit', -⟩ := hlimitCumulative.returns hcumulative
      have hsum := h.exactOrRefused_plus.refuses fun hsum => hfits ⟨hsingle, hcumulative, hsum⟩
      rw [hlimit', ok_bind, Money.exceeds_of_isExactly h.isExactly_amount hsingleValue, ok_bind,
        hsum, error_bind]
    · rw [hlimitCumulative.refuses hcumulative, error_bind]
  · rw [hlimitSingle.refuses hsingle, error_bind]

end WholeUnits

end LimitProfile

namespace ProfileLookup

variable {lookup : ProfileLookup} {classification : Int} {balance amount : Money}
  {found : List LimitBreach}

/-- A deposit breaks a limit if the list of broken ones is not empty. -/
theorem exceeds_of_breaches (h : lookup.breaches (some classification) balance amount = .ok found) :
    lookup.exceeds (some classification) balance amount = .ok (decide (found ≠ [])) := by
  rw [exceeds, h, ok_bind]
  cases found <;> rfl

/-- For money of one currency and limits in whole minor units of it, a check lists exactly the
limits that the amount and the sum are above, or it stops, and that exactly if a limit or the sum
has more digits at the minor unit than the context keeps. -/
theorem breaches_exact (lookup : ProfileLookup) (classification : Int) (profile : LimitProfile)
    (hprofile : lookup classification = .ok (some profile)) (currency : Currency)
    (balance amount : Money) (h : profile.WholeUnits currency balance amount) :
    let single := profile.maxSingleDeposit.value
    let cumulative := profile.cumulativeBalance.value
    let deposit := amount.amount.value
    let after := balance.amount.value + amount.amount.value
    let broken := LimitBreach.broken (single < deposit) (cumulative < after)
    if currency.Fits single ∧ currency.Fits cumulative ∧ currency.Fits after then
      lookup.breaches (some classification) balance amount = .ok broken ∧
        lookup.exceeds (some classification) balance amount = .ok (decide (broken ≠ []))
    else
      lookup.breaches (some classification) balance amount =
          .error (.arithmetic .invalidOperation) ∧
        lookup.exceeds (some classification) balance amount =
          .error (.arithmetic .invalidOperation) := by
  intro single cumulative deposit after broken
  have hmapped : lookup.breaches (some classification) balance amount =
      profile.breaches balance amount := breaches_mapped hprofile
  split
  next hfits =>
    have hbreaches := hmapped.trans (h.breaches_of_fits hfits.1 hfits.2.1 hfits.2.2)
    exact ⟨hbreaches, exceeds_of_breaches hbreaches⟩
  next hfits =>
    have hbreaches := hmapped.trans (h.breaches_of_not_fits hfits)
    exact ⟨hbreaches, by rw [exceeds, hbreaches, error_bind]⟩

/-- Amounts in cents and limits in whole euros are whole minor units. -/
theorem sameForAll_wholeUnits {balance amount : Int}
    (hbalance : Money.ofDatum ⟨"EUR", 2⟩ (.decimal (cents balance).amount) = .ok (cents balance))
    (hamount : Money.ofDatum ⟨"EUR", 2⟩ (.decimal (cents amount).amount) = .ok (cents amount)) :
    LimitProfile.WholeUnits ⟨7, 80, 100, ⟨"EUR", 2⟩, "basic"⟩ ⟨"EUR", 2⟩ (cents balance)
      (cents amount) where
  places_nonneg := by decide
  places_le := by decide
  code := rfl
  maxSingleDeposit := ⟨rfl, grid_anti (by decide) (Scaled.value_mem_grid (Scaled.ofInt 80))⟩
  cumulativeBalance := ⟨rfl, grid_anti (by decide) (Scaled.value_mem_grid (Scaled.ofInt 100))⟩
  balance := ⟨⟨_, hbalance⟩, rfl⟩
  amount := ⟨⟨_, hamount⟩, rfl⟩

/-- On a balance of twenty below zero, a deposit of 120 is over the limit of a deposit and reaches
that of the balance. To the largest balance nothing can be added. -/
theorem negativeBalance_exact :
    sameForAll.breaches (some 7) (cents (-2000)) (cents 12000) = .ok [.maxSingleDeposit] ∧
      sameForAll.exceeds (some 7) (cents (-2000)) (cents 12000) = .ok true ∧
      sameForAll.breaches (some 7) (cents 9999999999999999999999999999) (cents 1) =
        .error (.arithmetic .invalidOperation) := by
  have hpaid := breaches_exact sameForAll 7 _ rfl ⟨"EUR", 2⟩ (cents (-2000)) (cents 12000)
    (sameForAll_wholeUnits rfl rfl)
  have hfull := breaches_exact sameForAll 7 _ rfl ⟨"EUR", 2⟩
    (cents 9999999999999999999999999999) (cents 1) (sameForAll_wholeUnits rfl rfl)
  rw [if_pos (by decide +kernel)] at hpaid
  rw [if_neg (by decide +kernel)] at hfull
  have hbroken : LimitBreach.broken ((80 : Decimal).value < (cents 12000).amount.value)
      ((100 : Decimal).value < (cents (-2000)).amount.value + (cents 12000).amount.value) =
        [.maxSingleDeposit] := by
    decide +kernel
  rw [hbroken] at hpaid
  exact ⟨hpaid.1, hpaid.2, hfull.1⟩

end ProfileLookup

end Passbook
