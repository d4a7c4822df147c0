import Passbook.Proofs.Store.DepositCheck

/-!
# What a deposit check enforces

The limits of a profile are rounded to the places of the money that they are compared with, halves
away from zero, and so is the balance after a deposit. A check therefore enforces the rounded
limits: an amount that passes is over the written limit by at most half a unit of its last place,
and not at all where the limit has no digit below that place. The balance after the deposit is
added exactly if the amount has no digit below the places of the balance; otherwise two more
roundings stand between the sum and the limit.
-/

namespace Passbook

open Decimal

section

variable {e : Int} {x l : ℚ}

/-- A number of too many units is still one after both roundings. -/
theorem few_of_nearestMultiple (he : leastExponent ≤ e)
    (h : |nearestMultiple e (rounded x)| < 10 ^ (e + precision)) : |x| < 10 ^ (e + precision) := by
  by_contra hmany
  have hplace : e ≤ e + precision := by
    unfold precision
    omega
  have hreach : (10 : ℚ) ^ (e + precision) ≤ |rounded x| := by
    rw [abs_rounded]
    exact (representable_ten_pow (he.trans hplace)).le_rounded (not_lt.mp hmany)
  exact absurd h (not_lt.mpr (le_abs_nearestMultiple hplace hreach))

/-- A whole number of units that passes both roundings is left alone by them. -/
theorem nearestMultiple_rounded_of_mem_grid (he : leastExponent ≤ e) (hx : x ∈ grid e)
    (h : |nearestMultiple e (rounded x)| < 10 ^ (e + precision)) :
    nearestMultiple e (rounded x) = x := by
  have hfew := few_of_nearestMultiple he h
  rw [rounded_of_representable (representable_of_mem_grid he hx hfew),
    nearestMultiple_of_mem_grid hx]

/-- Rounding to the context and to a place moves a number up to little more than half a unit: where
the context keeps more places than the second rounding, the first one moves it by at most a
twentieth of the unit, and otherwise the second one does nothing. -/
theorem le_nearestMultiple_rounded_add (he : leastExponent ≤ e)
    (h : |nearestMultiple e (rounded x)| < 10 ^ (e + precision)) :
    x ≤ nearestMultiple e (rounded x) + 11 / 20 * 10 ^ e := by
  have hunit : (0 : ℚ) < 10 ^ e := by positivity
  rcases eq_or_ne x 0 with rfl | hx
  · simp only [rounded_zero, nearestMultiple_zero, zero_add]
    positivity
  have hfirst := abs_le.mp (abs_rounded_sub_le x)
  have hsecond := abs_le.mp (abs_nearestMultiple_sub_le e (rounded x))
  rcases (keptPlace_le_of_few hx he (few_of_nearestMultiple he h)).eq_or_lt with hsame | hmore
  · have hmem := rounded_mem_grid x
    rw [hsame] at hmem hfirst
    rw [nearestMultiple_of_mem_grid hmem]
    linarith
  · have htenth : (10 : ℚ) ^ keptPlace x ≤ 10 ^ e / 10 := by
      have hstep : (10 : ℚ) ^ (e - 1) = 10 ^ e / 10 := by
        rw [zpow_sub_one₀ (by norm_num), div_eq_mul_inv]
      rw [← hstep]
      exact zpow_le_zpow_right₀ (by norm_num) (by omega)
    linarith

/-- What is at most a rounded limit is at most half a unit over the limit. -/
theorem le_add_of_le_nearestMultiple (h : x ≤ nearestMultiple e l) : x ≤ l + 10 ^ e / 2 := by
  have hlimit := abs_le.mp (abs_nearestMultiple_sub_le e l)
  linarith

end

namespace Money

variable {m n total : Money} {currency : Currency} {datum : Datum} {p q : ℚ} {e : Int}
  {exceeded : Bool}

/-- An amount of money that is a number is a whole number of units of a quantum. -/
theorem mem_grid_of_ofDatum (h : ofDatum currency datum = .ok m) (hm : m.amount.isFinite = true) :
    m.currency = currency ∧
      ∃ e, quantumExponent currency.decimalPlaces = .ok e ∧ m.amount.value ∈ grid e := by
  obtain ⟨d, -, h⟩ := bind_eq_ok_iff.mp h
  rw [liftM_eq_ok_iff] at h
  refine ⟨currency_of h, ?_⟩
  obtain ⟨rounded, hrounded, h⟩ := bind_eq_ok_iff.mp h
  obtain rfl := pure_eq_ok_iff.mp h
  obtain ⟨p, hp⟩ := hasValue_of_quantizeMoney hrounded (hasValue_value hm)
  obtain ⟨e, he, hvalue, -⟩ := quantizeMoney_hasValue hp hrounded
  refine ⟨e, he, ?_⟩
  rw [hvalue.value_eq]
  exact nearestMultiple_mem_grid e p

/-- Whether one amount exceeds another one is the order of the numbers. -/
theorem exceeds_eq (hm : m.amount.HasValue p) (hn : n.amount.HasValue q)
    (h : m.exceeds n = .ok exceeded) : exceeded = decide (q < p) := by
  obtain ⟨-, -, h⟩ := bind_eq_ok_iff.mp h
  rw [liftM_eq_ok_iff, lt_eq hn hm] at h
  exact (Except.ok.inj h).symm

/-- Money is rounded to the quantum of its currency. -/
theorem hasValue_of {amount : Decimal} (hamount : amount.HasValue p)
    (he : quantumExponent currency.decimalPlaces = .ok e) (h : of currency amount = .ok m) :
    m.amount.HasValue (nearestMultiple e p) ∧ |nearestMultiple e p| < 10 ^ (e + precision) := by
  obtain ⟨rounded, hrounded, h⟩ := bind_eq_ok_iff.mp h
  obtain rfl := pure_eq_ok_iff.mp h
  obtain ⟨e', he', hquantized⟩ := bind_eq_ok_iff.mp hrounded
  obtain rfl := Except.ok.inj (he.symm.trans he')
  obtain ⟨hvalue, hfew, -⟩ := quantize_hasValue hamount hquantized
  exact ⟨hvalue, hfew⟩

/-- A sum is rounded to the context and to the quantum of the first currency. -/
theorem hasValue_plus (hm : m.amount.HasValue p) (hn : n.amount.HasValue q)
    (he : quantumExponent m.currency.decimalPlaces = .ok e) (h : m.plus n = .ok total) :
    total.amount.HasValue (nearestMultiple e (rounded (p + q))) ∧
      |nearestMultiple e (rounded (p + q))| < 10 ^ (e + precision) := by
  obtain ⟨-, -, h⟩ := bind_eq_ok_iff.mp h
  obtain ⟨sum, hsum, h⟩ := bind_eq_ok_iff.mp h
  rw [liftM_eq_ok_iff] at hsum h
  exact hasValue_of ((add_rounds hm hn).hasValue hsum) he h

end Money

namespace LimitBreach

variable {single cumulative : Prop} [Decidable single] [Decidable cumulative]

/-- The limits that are broken, in the order in which they are checked. -/
def broken (single cumulative : Prop) [Decidable single] [Decidable cumulative] :
    List LimitBreach :=
  (if single then [maxSingleDeposit] else []) ++ (if cumulative then [cumulativeBalance] else [])

@[simp] theorem mem_broken_single :
    maxSingleDeposit ∈ broken single cumulative ↔ single := by
  by_cases hsingle : single <;> by_cases hcumulative : cumulative <;>
    simp [broken, hsingle, hcumulative]

@[simp] theorem mem_broken_cumulative :
    cumulativeBalance ∈ broken single cumulative ↔ cumulative := by
  by_cases hsingle : single <;> by_cases hcumulative : cumulative <;>
    simp [broken, hsingle, hcumulative]

end LimitBreach

namespace LimitProfile

variable {profile : LimitProfile} {balance amount : Money} {found : List LimitBreach}
  {a b : ℚ} {ea eb : Int}

/-- The limits that are found to be broken, in terms of the numbers. -/
theorem breaches_eq_broken (hamount : amount.amount.HasValue a)
    (hbalance : balance.amount.HasValue b)
    (hea : quantumExponent amount.currency.decimalPlaces = .ok ea)
    (heb : quantumExponent balance.currency.decimalPlaces = .ok eb)
    (h : profile.breaches balance amount = .ok found) :
    found = LimitBreach.broken (nearestMultiple ea profile.maxSingleDeposit.value < a)
        (nearestMultiple eb profile.cumulativeBalance.value <
          nearestMultiple eb (rounded (b + a))) ∧
      |nearestMultiple eb (rounded (b + a))| < 10 ^ (eb + precision) := by
  have hcomparable := comparable_of_breaches h
  obtain ⟨single, hsingle, h⟩ := bind_eq_ok_iff.mp h
  obtain ⟨cumulative, hcumulative, h⟩ := bind_eq_ok_iff.mp h
  obtain ⟨overSingle, hoverSingle, h⟩ := bind_eq_ok_iff.mp h
  obtain ⟨after, hafter, h⟩ := bind_eq_ok_iff.mp h
  obtain ⟨overCumulative, hoverCumulative, h⟩ := bind_eq_ok_iff.mp h
  have hsingleValue :=
    (Money.hasValue_of (hasValue_value hcomparable.maxSingleDeposit) hea (of_limitFor hsingle)).1
  have hcumulativeValue := (Money.hasValue_of (hasValue_value hcomparable.cumulativeBalance) heb
    (of_limitFor hcumulative)).1
  obtain ⟨hafterValue, hfew⟩ := Money.hasValue_plus hbalance hamount heb hafter
  obtain rfl := Money.exceeds_eq hamount hsingleValue hoverSingle
  obtain rfl := Money.exceeds_eq hafterValue hcumulativeValue hoverCumulative
  obtain rfl := pure_eq_ok_iff.mp h
  refine ⟨?_, hfew⟩
  simp only [LimitBreach.broken, decide_eq_true_eq]

/-- Which limits are found to be broken, in terms of the numbers. -/
theorem breaches_eq_ok (hamount : amount.amount.HasValue a) (hbalance : balance.amount.HasValue b)
    (hea : quantumExponent amount.currency.decimalPlaces = .ok ea)
    (heb : quantumExponent balance.currency.decimalPlaces = .ok eb)
    (h : profile.breaches balance amount = .ok found) :
    (.maxSingleDeposit ∈ found ↔ nearestMultiple ea profile.maxSingleDeposit.value < a) ∧
      (.cumulativeBalance ∈ found ↔ nearestMultiple eb profile.cumulativeBalance.value <
        nearestMultiple eb (rounded (b + a))) ∧
      |nearestMultiple eb (rounded (b + a))| < 10 ^ (eb + precision) := by
  obtain ⟨rfl, hfew⟩ := breaches_eq_broken hamount hbalance hea heb h
  exact ⟨by simp, by simp, hfew⟩

end LimitProfile

namespace ProfileLookup

/-- A check enforces the limits rounded to the places of the money. Of a deposit that is not listed
as too large, the amount is at most the rounded limit, so over the written one by at most half a
unit, and not at all if the limit is a whole number of units. Of one that is not listed as too large
for the balance, the rounded sum is at most the rounded limit. If the amount is a whole number of
units of the balance, the sum is exact and the same holds; if not, the sum may be over the written
limit by little more than one unit. -/
theorem breaches_enforced (lookup : ProfileLookup) (classification : Int) (profile : LimitProfile)
    (hprofile : lookup classification = .ok (some profile))
    (balanceCurrency amountCurrency : Currency) (balanceDatum amountDatum : Datum)
    (balance amount : Money) (hbalance : Money.ofDatum balanceCurrency balanceDatum = .ok balance)
    (hamount : Money.ofDatum amountCurrency amountDatum = .ok amount) (found : List LimitBreach)
    (h : lookup.breaches (some classification) balance amount = .ok found) :
    let a := amount.amount.value
    let b := balance.amount.value
    let single := profile.maxSingleDeposit.value
    let cumulative := profile.cumulativeBalance.value
    profile.Comparable balance amount ∧
    ∃ ea eb, quantumExponent amountCurrency.decimalPlaces = .ok ea ∧
      quantumExponent balanceCurrency.decimalPlaces = .ok eb ∧
      (.maxSingleDeposit ∉ found ↔ a ≤ nearestMultiple ea single) ∧
      (.maxSingleDeposit ∉ found → a ≤ single + 10 ^ ea / 2 ∧ (single ∈ grid ea → a ≤ single)) ∧
      (.cumulativeBalance ∉ found ↔
        nearestMultiple eb (rounded (b + a)) ≤ nearestMultiple eb cumulative) ∧
      (.cumulativeBalance ∉ found → b + a ≤ cumulative + 21 / 20 * 10 ^ eb ∧
        (a ∈ grid eb → b + a ≤ cumulative + 10 ^ eb / 2 ∧
          (cumulative ∈ grid eb → b + a ≤ cumulative))) := by
  intro a b single cumulative
  rw [breaches_mapped hprofile] at h
  have hcomparable := LimitProfile.comparable_of_breaches h
  have ha : amount.amount.HasValue a := hasValue_value hcomparable.amountAmount
  have hb : balance.amount.HasValue b := hasValue_value hcomparable.balanceAmount
  obtain ⟨rfl, ea, hea, -⟩ := Money.mem_grid_of_ofDatum hamount ha.isFinite
  obtain ⟨rfl, eb, heb, hbmem⟩ := Money.mem_grid_of_ofDatum hbalance hb.isFinite
  have hleast := leastExponent_le_quantumExponent heb
  obtain ⟨hsingle, hcumulative, hfew⟩ := LimitProfile.breaches_eq_ok ha hb hea heb h
  refine ⟨hcomparable, ea, eb, hea, heb, by rw [hsingle, not_lt], ?_, by rw [hcumulative, not_lt],
    ?_⟩
  · intro hlisted
    rw [hsingle, not_lt] at hlisted
    refine ⟨le_add_of_le_nearestMultiple hlisted, fun hmem => ?_⟩
    rwa [nearestMultiple_of_mem_grid hmem] at hlisted
  · intro hlisted
    rw [hcumulative, not_lt] at hlisted
    have hlimit := le_add_of_le_nearestMultiple hlisted
    refine ⟨?_, fun hamem => ?_⟩
    · have hsum := le_nearestMultiple_rounded_add hleast hfew
      linarith
    · rw [nearestMultiple_rounded_of_mem_grid hleast (add_mem hbmem hamem) hfew] at hlisted hlimit
      refine ⟨hlimit, fun hmem => ?_⟩
      rwa [nearestMultiple_of_mem_grid hmem] at hlisted

/-- Every classification has limits of 100.50, in a currency without minor unit. -/
def halfOverHundred : ProfileLookup := fun classification =>
  .ok (some ⟨classification, .finite ⟨false, 10050, -2⟩, .finite ⟨false, 10050, -2⟩, ⟨"JPY", 0⟩,
    "basic"⟩)

/-- An amount of 100 keeps the limits of 100.50, rounded or not. -/
theorem halfOverHundred_enforced :
    halfOverHundred.breaches (some 1) ⟨0, ⟨"JPY", 0⟩⟩ ⟨100, ⟨"JPY", 0⟩⟩ = .ok [] ∧
      ∃ ea, quantumExponent 0 = .ok ea ∧ (100 : Decimal).value ≤
        (Decimal.finite ⟨false, 10050, -2⟩).value + 10 ^ ea / 2 := by
  obtain ⟨-, ea, -, hea, -, -, hsingle, -⟩ := breaches_enforced halfOverHundred 1 _ rfl ⟨"JPY", 0⟩
    ⟨"JPY", 0⟩ (.whole 0) (.text "1E+2") ⟨0, ⟨"JPY", 0⟩⟩ ⟨100, ⟨"JPY", 0⟩⟩ (by decide +kernel)
    (by decide +kernel) [] (by decide +kernel)
  exact ⟨by decide +kernel, ea, hea, (hsingle (by decide)).1⟩

/-- An amount of 101 is over both limits of 100.50, and is not found to be. With limits that are
whole numbers the rounding of the sum is enough: forty hundredths on top of a hundred are not found
to be over a hundred in a balance that has no hundredths. -/
theorem halfOverHundred_passes :
    Money.ofDatum ⟨"JPY", 0⟩ (.whole 0) = .ok ⟨0, ⟨"JPY", 0⟩⟩ ∧
      Money.ofDatum ⟨"JPY", 0⟩ (.whole 101) = .ok ⟨101, ⟨"JPY", 0⟩⟩ ∧
      (Decimal.finite ⟨false, 10050, -2⟩).lt 101 = .ok true ∧
      halfOverHundred.breaches (some 1) ⟨0, ⟨"JPY", 0⟩⟩ ⟨101, ⟨"JPY", 0⟩⟩ = .ok [] ∧
      Money.ofDatum ⟨"JPY", 0⟩ (.whole 100) = .ok ⟨100, ⟨"JPY", 0⟩⟩ ∧
      Money.ofDatum ⟨"JPY", 2⟩ (.text "0.40") = .ok ⟨.finite ⟨false, 40, -2⟩, ⟨"JPY", 2⟩⟩ ∧
      LimitProfile.breaches ⟨1, 100, 100, ⟨"JPY", 0⟩, "whole"⟩ ⟨100, ⟨"JPY", 0⟩⟩
        ⟨.finite ⟨false, 40, -2⟩, ⟨"JPY", 2⟩⟩ = .ok [] := by
  decide +kernel

end ProfileLookup

end Passbook
