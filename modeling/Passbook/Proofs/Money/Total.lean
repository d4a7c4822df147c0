import Passbook.Proofs.Money

/-!
# Totals of money

Amounts of one currency are counts of its minor unit. A sum of two of them is first rounded to the
context, halves to even, and then to the minor unit, halves away from zero. The first rounding
does nothing as long as the sum has no more digits than the context keeps, and otherwise leaves a
number that the second one refuses. So a running total is exact to the last unit or it stops, and
which total a run ends with is the same in every order.
-/

namespace Passbook

open Decimal

namespace Scaled

variable {x y : Scaled}

/-- Nothing stands in for a number in a sum with one of the same last place. -/
theorem beside_of_exponent_eq (h : x.exponent = y.exponent) : x.beside y = x := by
  have hdigits := digitCount_pos x.coefficient
  unfold beside
  dsimp only
  refine if_neg ?_
  rintro ⟨-, hlt⟩
  unfold adjusted at hlt
  omega

/-- A sum of numbers of one last place is the fitted exact sum. -/
theorem add_of_exponent_eq (h : x.exponent = y.exponent) : x.add y = (exactSum x y).fit := by
  unfold add
  rw [if_pos h.ge, beside_of_exponent_eq h.symm]

end Scaled

/-- A signed count of minor units that the context keeps all digits of. Zero has a sign, too. -/
structure MinorUnits where
  negative : Bool
  count : Nat
  few : digitCount count ≤ precision

namespace MinorUnits

variable {u v w : MinorUnits} {currency : Currency} {places : Int}

/-- The count with its sign. -/
def toInt (u : MinorUnits) : Int := if u.negative then -(u.count : Int) else u.count

/-- The decimal that counts units of so many places. -/
def scaled (u : MinorUnits) (places : Int) : Scaled := ⟨u.negative, u.count, -places⟩

/-- The amount of money. -/
def money (u : MinorUnits) (currency : Currency) : Money :=
  ⟨.finite (u.scaled currency.decimalPlaces), currency⟩

/-- The decimal of a count is worth so many units. -/
theorem value_scaled (u : MinorUnits) (places : Int) :
    (u.scaled places).value = u.toInt * 10 ^ (-places) := by
  rw [Scaled.value, Scaled.magnitude, toInt, scaled]
  split
  · push_cast
    ring
  · push_cast
    ring

/-- The decimal of a count has so many units of its last place. -/
theorem units_scaled (u : MinorUnits) (places : Int) :
    (u.scaled places).units (-places) = u.toInt := by
  rw [Scaled.units, toInt, scaled]
  split
  next hzero => simp [show u.count = 0 from hzero]
  next => simp

/-- The sum of two counts, if the context keeps all its digits. A zero sum is negative only if both
counts are. -/
def add? (u v : MinorUnits) : Option MinorUnits :=
  let total := u.toInt + v.toInt
  if few : digitCount total.natAbs ≤ precision then
    some ⟨if total = 0 then u.negative && v.negative else total < 0, total.natAbs, few⟩
  else none

/-- A count of a given sign, which zero may have either way. -/
theorem toInt_signed (s : Bool) (n : Int) (few : digitCount n.natAbs ≤ precision) :
    (⟨if n = 0 then s else n < 0, n.natAbs, few⟩ : MinorUnits).toInt = n := by
  rcases lt_trichotomy n 0 with h | rfl | h
  · simp [toInt, h, h.ne, abs_of_neg]
  · simp [toInt]
  · simp [toInt, h.le, h.ne', abs_of_pos h]

theorem toInt_nonpos (h : u.negative = true) : u.toInt ≤ 0 := by
  rw [toInt, if_pos h]
  omega

/-- A count is known by its sign and its value. -/
theorem eq_of_toInt (hsign : u.negative = v.negative) (hvalue : u.toInt = v.toInt) : u = v := by
  have hcount : u.count = v.count := by
    rw [toInt, toInt, hsign] at hvalue
    split at hvalue <;> omega
  cases u
  cases v
  simp_all

/-- A sum is negative if it is below zero, or if both counts are negative. -/
theorem add?_eq_some (h : u.add? v = some w) :
    w.toInt = u.toInt + v.toInt ∧
      (w.negative = true ↔ w.toInt < 0 ∨ (u.negative = true ∧ v.negative = true)) := by
  simp only [add?] at h
  split at h
  next few =>
    obtain rfl := Option.some.inj h
    refine ⟨toInt_signed _ _ few, ?_⟩
    rw [toInt_signed]
    by_cases hzero : u.toInt + v.toInt = 0
    · simp [hzero]
    · have hneg : u.negative = true ∧ v.negative = true → u.toInt + v.toInt < 0 := by
        rintro ⟨hu, hv⟩
        have hu := toInt_nonpos hu
        have hv := toInt_nonpos hv
        omega
      simpa [hzero] using hneg
  next => exact nomatch h

/-- A running total is the sum, and it is negative if it is below zero or if all parts are
negative. -/
theorem foldlM_add?_eq_some {us : List MinorUnits} (h : us.foldlM add? u = some w) :
    w.toInt = u.toInt + (us.map toInt).sum ∧
      (w.negative = true ↔
        w.toInt < 0 ∨ (u.negative = true ∧ ∀ v ∈ us, v.negative = true)) := by
  induction us generalizing u with
  | nil =>
    obtain rfl := Option.some.inj h
    refine ⟨by simp, ⟨fun hw => .inr ⟨hw, by simp⟩, ?_⟩⟩
    rintro (hlt | ⟨hw, -⟩)
    · by_contra hpos
      rw [toInt, if_neg hpos] at hlt
      omega
    · exact hw
  | cons v rest ih =>
    rw [List.foldlM_cons] at h
    obtain ⟨next, hnext, h⟩ := Option.bind_eq_some_iff.mp h
    obtain ⟨hvalue, hsign⟩ := add?_eq_some hnext
    obtain ⟨hvalue', hsign'⟩ := ih h
    refine ⟨by rw [hvalue', hvalue, List.map_cons, List.sum_cons, add_assoc], ?_⟩
    rw [hsign', hsign, List.forall_mem_cons]
    have hbelow : next.toInt < 0 → (∀ v ∈ rest, v.negative = true) → w.toInt < 0 := by
      intro hlt hrest
      have hsum := List.sum_le_card_nsmul (rest.map toInt) 0
        (List.forall_mem_map.mpr fun v hv => toInt_nonpos (hrest v hv))
      rw [smul_zero] at hsum
      omega
    constructor
    · rintro (hlt | ⟨hlt | ⟨hu, hv⟩, hrest⟩)
      · exact .inl hlt
      · exact .inl (hbelow hlt hrest)
      · exact .inr ⟨hu, hv, hrest⟩
    · rintro (hlt | ⟨hu, hv, hrest⟩)
      · exact .inl hlt
      · exact .inr ⟨.inr ⟨hu, hv⟩, hrest⟩

/-- The decimal of the sum of two counts, with all its digits. -/
def sumScaled (u v : MinorUnits) (places : Int) : Scaled :=
  let total := u.toInt + v.toInt
  ⟨if total = 0 then u.negative && v.negative else total < 0, total.natAbs, -places⟩

/-- The exact sum of the decimals of two counts is that of their sum. -/
theorem exactSum_scaled (u v : MinorUnits) (places : Int) :
    Scaled.exactSum (u.scaled places) (v.scaled places) = u.sumScaled v places := by
  have hplace : min (u.scaled places).exponent (v.scaled places).exponent = -places := min_self _
  rw [Scaled.exactSum, hplace, units_scaled, units_scaled]
  rfl

/-- A sum of two counts has at most one digit more than the context keeps. -/
theorem natAbs_add_le (u v : MinorUnits) : (u.toInt + v.toInt).natAbs ≤ 2 * 10 ^ precision := by
  have hcount : ∀ w : MinorUnits, w.toInt.natAbs ≤ 10 ^ precision := by
    intro w
    have hlt : w.count < 10 ^ precision := (digitCount_le_iff (by decide)).mp w.few
    rw [toInt]
    split <;> omega
  have hu := hcount u
  have hv := hcount v
  omega

end MinorUnits

section

variable {x y : Scaled} {e : Int}

/-- A sum of few enough units is fitted and quantized to itself. -/
theorem Scaled.quantize_fit (he : leastExponent ≤ x.exponent) (hle : x.exponent ≤ 0)
    (hfew : digitCount x.coefficient ≤ precision) :
    ∃ r, x.fit = .ok r ∧ r.quantize x.exponent = .ok x := by
  have hmem := x.value_mem_grid
  have hlt : |x.value| < 10 ^ (x.exponent + precision) := by
    rw [abs_value]
    exact digitCount_le_precision_iff.mp hfew
  have hlimit : |x.value| < limit := by
    refine hlt.trans_le (zpow_le_zpow_right₀ (by norm_num) ?_)
    unfold maxExponent precision
    omega
  have hrounded := rounded_of_representable (representable_of_mem_grid he hmem hlt)
  obtain ⟨r, hr, hvalue⟩ := fit_of_lt (by rwa [hrounded])
  rw [hrounded] at hvalue
  rw [← hvalue] at hmem hlt hlimit
  obtain ⟨y, hy, hsign, hvalue'⟩ := quantize_of_mem_grid hmem hlt hlimit
  obtain rfl := eq_of_value (hsign.trans (fit_eq_ok hr).1) (quantize_units hy).1
    (hvalue'.trans hvalue)
  exact ⟨r, hr, hy⟩

/-- A sum of too many units is fitted to a number that is not quantized. -/
theorem Scaled.quantize_fit_eq_error (he : leastExponent ≤ x.exponent) (hle : x.exponent ≤ 0)
    (hmany : precision < digitCount x.coefficient) (hfew : x.coefficient ≤ 2 * 10 ^ precision) :
    ∃ r, x.fit = .ok r ∧ r.quantize x.exponent = .error .invalidOperation := by
  have hreach : (10 : ℚ) ^ (x.exponent + precision) ≤ x.magnitude := by
    rw [← not_lt]
    exact fun hlt => absurd (digitCount_le_precision_iff.mpr hlt) (not_le.mpr hmany)
  have hcount : (x.coefficient : ℚ) ≤ 10 * 10 ^ precision := by
    have hcast : (x.coefficient : ℚ) ≤ 2 * 10 ^ precision := by exact_mod_cast hfew
    linarith [show (0 : ℚ) < 10 ^ precision by positivity]
  have hbelow : x.magnitude ≤ (10 : ℚ) ^ (x.exponent + precision + 1) := by
    calc x.magnitude = x.coefficient * 10 ^ x.exponent := rfl
      _ ≤ 10 * 10 ^ precision * 10 ^ x.exponent := by gcongr
      _ = 10 ^ (x.exponent + precision + 1) := by
        rw [zpow_add_one₀ (by norm_num), zpow_add₀ (by norm_num), zpow_natCast]
        ring
  have hrounded : (10 : ℚ) ^ (x.exponent + precision) ≤ rounded x.magnitude :=
    (representable_ten_pow (by omega)).le_rounded hreach
  have hlimit : rounded x.magnitude < limit := by
    refine ((representable_ten_pow (by omega)).rounded_le hbelow).trans_lt ?_
    refine zpow_lt_zpow_right₀ (by norm_num) ?_
    unfold maxExponent precision
    omega
  rw [← abs_rounded_value] at hrounded hlimit
  obtain ⟨r, hr, hvalue⟩ := fit_of_lt hlimit
  refine ⟨r, hr, ?_⟩
  rw [← hvalue] at hrounded
  cases hquantize : r.quantize x.exponent with
  | error f => rw [quantize_eq_error hquantize]
  | ok z =>
    obtain ⟨hz, hfewer, -⟩ := quantize_eq_ok hquantize
    have hle := le_abs_nearestMultiple (e := x.exponent) (by omega) hrounded
    rw [← hz, abs_value] at hle
    exact absurd hfewer (not_lt.mpr hle)

end

namespace Money

variable {currency : Currency} {u v : MinorUnits} {m : Money}

/-- Amounts in minor units are added exactly, fitted and rounded. -/
theorem plus_of_fit {r : Scaled} (hr : (u.sumScaled v currency.decimalPlaces).fit = .ok r) :
    (u.money currency).plus (v.money currency) = liftM (of currency (.finite r)) := by
  have hplace : (u.scaled currency.decimalPlaces).exponent =
      (v.scaled currency.decimalPlaces).exponent := rfl
  have hadd : (u.money currency).amount.add (v.money currency).amount = .ok (.finite r) := by
    rw [MinorUnits.money, MinorUnits.money, Decimal.add, Scaled.add_of_exponent_eq hplace,
      MinorUnits.exactSum_scaled, hr]
    rfl
  rw [plus, hadd, requireSameCode, if_pos]
  · rfl
  · rfl

section

variable (h0 : 0 ≤ currency.decimalPlaces) (h : currency.decimalPlaces ≤ maxExponent)
include h0 h

/-- A number is rounded to minor units. -/
theorem of_finite (r : Scaled) :
    of currency (.finite r) =
      (r.quantize (-currency.decimalPlaces)).map fun y => ⟨.finite y, currency⟩ := by
  rw [of, quantizeMoney, quantumExponent_of_nonneg h0 h, ok_bind, Decimal.quantize]
  cases r.quantize (-currency.decimalPlaces) <;> rfl

/-- Amounts in minor units are added to the last one, or not at all. -/
theorem plus_money (u v : MinorUnits) :
    (u.money currency).plus (v.money currency) =
      match u.add? v with
      | some w => .ok (w.money currency)
      | none => .error (.arithmetic .invalidOperation) := by
  have hle : leastExponent ≤ -currency.decimalPlaces := leastExponent_le_neg h
  have hle0 : -currency.decimalPlaces ≤ 0 := by omega
  by_cases few : digitCount (u.toInt + v.toInt).natAbs ≤ precision
  · have hadd : u.add? v = some ⟨_, _, few⟩ := dif_pos few
    obtain ⟨r, hr, hquantize⟩ :=
      Scaled.quantize_fit (x := u.sumScaled v currency.decimalPlaces) hle hle0 few
    rw [hadd, plus_of_fit hr, of_finite h0 h,
      show r.quantize (-currency.decimalPlaces) = _ from hquantize]
    rfl
  · have hadd : u.add? v = none := dif_neg few
    obtain ⟨r, hr, hquantize⟩ :=
      Scaled.quantize_fit_eq_error (x := u.sumScaled v currency.decimalPlaces) hle hle0
        (not_le.mp few) (u.natAbs_add_le v)
    rw [hadd, plus_of_fit hr, of_finite h0 h,
      show r.quantize (-currency.decimalPlaces) = _ from hquantize]
    rfl

/-- An amount that was made in a currency and is a number is a count of minor units. -/
theorem exists_units_of_ofDatum {d : Datum} (hd : ofDatum currency d = .ok m)
    (hm : m.amount.isNaN = false) : ∃ u : MinorUnits, u.money currency = m := by
  obtain ⟨amount, -, hof⟩ := bind_eq_ok_iff.mp hd
  rw [liftM_eq_ok_iff] at hof
  obtain ⟨r, rfl⟩ := isFinite_iff.mp (Money.isFinite_of hof hm)
  rw [of_finite h0 h] at hof
  obtain ⟨y, hy, rfl⟩ := map_eq_ok_iff.mp hof
  obtain ⟨hplace, hfew⟩ := Scaled.quantize_units hy
  refine ⟨⟨y.negative, y.coefficient, hfew⟩, ?_⟩
  rw [MinorUnits.money, MinorUnits.scaled, ← hplace]

/-- Amounts of a currency that are numbers are counts of its minor unit. -/
theorem exists_units_of_forall {parts : List Money}
    (hmade : ∀ m ∈ parts, ∃ d, ofDatum currency d = .ok m)
    (hnumbers : ∀ m ∈ parts, m.amount.isNaN = false) :
    ∃ us : List MinorUnits, us.map (·.money currency) = parts := by
  have hmem : parts ∈ Set.range (List.map fun v : MinorUnits => v.money currency) := by
    rw [Set.range_list_map]
    intro m hm
    obtain ⟨d, hd⟩ := hmade m hm
    exact exists_units_of_ofDatum h0 h hd (hnumbers m hm)
  exact hmem

/-- A run over counts of minor units is the run over the amounts. -/
theorem foldlM_plus_eq_ok {us : List MinorUnits}
    (hrun : (us.map (·.money currency)).foldlM plus (u.money currency) = .ok m) :
    ∃ w, us.foldlM MinorUnits.add? u = some w ∧ w.money currency = m := by
  induction us generalizing u with
  | nil => exact ⟨u, rfl, Except.ok.inj hrun⟩
  | cons v rest ih =>
    rw [List.map_cons, List.foldlM_cons, plus_money h0 h] at hrun
    cases hnext : u.add? v with
    | none =>
      rw [hnext] at hrun
      exact nomatch hrun
    | some next =>
      rw [hnext] at hrun
      obtain ⟨w, hw, hm⟩ := ih hrun
      exact ⟨w, by rw [List.foldlM_cons, hnext]; exact hw, hm⟩

end

/-- An amount of money is worth so many minor units. -/
theorem value_money (u : MinorUnits) (currency : Currency) :
    (u.money currency).amount.value = u.toInt * 10 ^ (-currency.decimalPlaces) :=
  u.value_scaled _

/-- Counts of minor units add up as the amounts. -/
theorem sum_value_money (u : MinorUnits) (us : List MinorUnits) (currency : Currency) :
    (u.money currency).amount.value + ((us.map (·.money currency)).map (·.amount.value)).sum =
      ((u.toInt + (us.map (·.toInt)).sum : Int) : ℚ) * 10 ^ (-currency.decimalPlaces) := by
  induction us with
  | nil => simp [value_money]
  | cons v rest ih =>
    simp only [List.map_cons, List.sum_cons, value_money] at ih ⊢
    push_cast at ih ⊢
    linarith

/-- An amount of money is known by its count. -/
theorem money_injective (currency : Currency) :
    Function.Injective fun u : MinorUnits => u.money currency := by
  intro u v h
  cases u
  cases v
  simp_all [MinorUnits.money, MinorUnits.scaled]

/-- The amount is a sum to the last digit, and that digit is the minor unit of the currency. -/
structure IsExactly (currency : Currency) (sum : ℚ) (m : Money) : Prop where
  currency_eq : m.currency = currency
  value : m.amount.HasValue sum
  place : ∃ x, m.amount = .finite x ∧ x.exponent = -currency.decimalPlaces

/-- An amount of money is exactly so many minor units. -/
theorem money_isExactly (u : MinorUnits) (currency : Currency) :
    (u.money currency).IsExactly currency (u.toInt * 10 ^ (-currency.decimalPlaces)) where
  currency_eq := rfl
  value := hasValue_finite.mpr (u.value_scaled _)
  place := ⟨_, rfl, rfl⟩

/-- The sum is a whole number of minor units, and the outcome is that sum, or no result if the
context does not keep all digits of that number. -/
def ExactOrRefused (currency : Currency) (sum : ℚ) (outcome : Except Error Money) : Prop :=
  ∃ units : Int, sum = units * 10 ^ (-currency.decimalPlaces) ∧
    if digitCount units.natAbs ≤ precision then ∃ m, outcome = .ok m ∧ m.IsExactly currency sum
    else outcome = .error (.arithmetic .invalidOperation)

section

variable (h0 : 0 ≤ currency.decimalPlaces) (h : currency.decimalPlaces ≤ maxExponent)
include h0 h

/-- Two amounts are added exactly, or refused because the context does not keep all digits of the
sum. -/
theorem exactOrRefused_plus (u v : MinorUnits) :
    ExactOrRefused currency
      (((u.toInt + v.toInt : Int) : ℚ) * 10 ^ (-currency.decimalPlaces))
      ((u.money currency).plus (v.money currency)) := by
  refine ⟨u.toInt + v.toInt, rfl, ?_⟩
  rw [plus_money h0 h]
  split
  next few =>
    obtain ⟨w, hadd⟩ : ∃ w, u.add? v = some w := ⟨_, dif_pos few⟩
    obtain ⟨hvalue, -⟩ := MinorUnits.add?_eq_some hadd
    rw [hadd, ← hvalue]
    exact ⟨_, rfl, money_isExactly _ currency⟩
  next many =>
    have hadd : u.add? v = none := dif_neg many
    rw [hadd]

/-- A further step of a run gives the exact sum so far, or it stops. -/
theorem exactOrRefused_next {us : List MinorUnits} (v : MinorUnits)
    (hrun : (us.map (·.money currency)).foldlM plus (u.money currency) = .ok m) :
    ExactOrRefused currency
      ((u.money currency).amount.value +
        ((us.map (·.money currency) ++ [v.money currency]).map (·.amount.value)).sum)
      (m.plus (v.money currency)) := by
  obtain ⟨w, hw, rfl⟩ := foldlM_plus_eq_ok h0 h hrun
  obtain ⟨hvalue, -⟩ := MinorUnits.foldlM_add?_eq_some hw
  have hsum := sum_value_money u (us ++ [v]) currency
  have htotal : u.toInt + ((us ++ [v]).map (·.toInt)).sum = w.toInt + v.toInt := by
    simp [hvalue, add_assoc]
  rw [htotal, List.map_append] at hsum
  rw [show [v.money currency] = [v].map (·.money currency) from rfl, hsum]
  exact exactOrRefused_plus h0 h w v

/-- A run to its end gives the exact sum. -/
theorem isExactly_of_foldlM {us : List MinorUnits}
    (hrun : (us.map (·.money currency)).foldlM plus (u.money currency) = .ok m) :
    m.IsExactly currency ((u.money currency).amount.value +
      ((us.map (·.money currency)).map (·.amount.value)).sum) := by
  obtain ⟨w, hw, rfl⟩ := foldlM_plus_eq_ok h0 h hrun
  obtain ⟨hvalue, -⟩ := MinorUnits.foldlM_add?_eq_some hw
  rw [sum_value_money, ← hvalue]
  exact money_isExactly w currency

/-- Runs to their ends in two orders give the same amount, also the same zero. -/
theorem eq_of_perm {us vs : List MinorUnits} (hperm : vs.Perm us) {m' : Money}
    (hrun : (us.map (·.money currency)).foldlM plus (u.money currency) = .ok m)
    (hrun' : (vs.map (·.money currency)).foldlM plus (u.money currency) = .ok m') : m' = m := by
  obtain ⟨w, hw, rfl⟩ := foldlM_plus_eq_ok h0 h hrun
  obtain ⟨w', hw', rfl⟩ := foldlM_plus_eq_ok h0 h hrun'
  obtain ⟨hvalue, hsign⟩ := MinorUnits.foldlM_add?_eq_some hw
  obtain ⟨hvalue', hsign'⟩ := MinorUnits.foldlM_add?_eq_some hw'
  have hsame : w'.toInt = w.toInt := by
    rw [hvalue, hvalue', (hperm.map _).sum_eq]
  have hnegative : w'.negative = w.negative := by
    rw [Bool.eq_iff_iff, hsign, hsign', hsame]
    simp only [hperm.mem_iff]
  rw [MinorUnits.eq_of_toInt hnegative hsame]

end

/-- Amounts of one currency, none of them a value that is no number, are added to the last minor
unit or not at all. Each step of a run gives the exact sum so far, or it stops because that sum
has too many digits; a run to the end gives the exact sum of all, and in every order of the
addends the same amount. -/
theorem total_exact (currency : Currency) (h0 : 0 ≤ currency.decimalPlaces)
    (h : currency.decimalPlaces ≤ 999999) (start : Money) (addends : List Money)
    (hstart : ∃ d, ofDatum currency d = .ok start)
    (haddends : ∀ m ∈ addends, ∃ d, ofDatum currency d = .ok m)
    (hnumber : start.amount.isNaN = false) (hnumbers : ∀ m ∈ addends, m.amount.isNaN = false) :
    (∀ done m rest total, addends = done ++ m :: rest → done.foldlM plus start = .ok total →
      ExactOrRefused currency
        (start.amount.value + ((done ++ [m]).map (·.amount.value)).sum) (total.plus m)) ∧
    (∀ total, addends.foldlM plus start = .ok total →
      total.IsExactly currency (start.amount.value + (addends.map (·.amount.value)).sum)) ∧
    ∀ (other : List Money) total total', other.Perm addends →
      addends.foldlM plus start = .ok total → other.foldlM plus start = .ok total' →
        total' = total := by
  obtain ⟨d, hd⟩ := hstart
  obtain ⟨u, rfl⟩ := exists_units_of_ofDatum h0 h hd hnumber
  have hunits : ∀ parts : List Money, (∀ m ∈ parts, m ∈ addends) →
      ∃ us : List MinorUnits, us.map (·.money currency) = parts := fun parts hparts =>
    exists_units_of_forall h0 h (fun m hm => haddends m (hparts m hm))
      fun m hm => hnumbers m (hparts m hm)
  refine ⟨?_, ?_, ?_⟩
  · intro done m rest total hsplit hrun
    obtain ⟨us, rfl⟩ := hunits done fun m hm => by simp [hsplit, hm]
    obtain ⟨d, hd⟩ := haddends m (by simp [hsplit])
    obtain ⟨v, rfl⟩ := exists_units_of_ofDatum h0 h hd (hnumbers m (by simp [hsplit]))
    exact exactOrRefused_next h0 h v hrun
  · intro total hrun
    obtain ⟨us, rfl⟩ := hunits addends fun m hm => hm
    exact isExactly_of_foldlM h0 h hrun
  · intro other total total' hperm hrun hrun'
    obtain ⟨us, rfl⟩ := hunits addends fun m hm => hm
    obtain ⟨vs, rfl⟩ := hunits other fun m hm => hperm.mem_iff.mp hm
    have hunitsPerm : vs.Perm us := (List.map_perm_map_iff (money_injective currency)).mp hperm
    exact eq_of_perm h0 h hunitsPerm hrun hrun'

/-- A currency with cents. -/
def euro : Currency := ⟨"EUR", 2⟩

/-- The largest amount in cents. -/
def largest : Money := ⟨.finite ⟨false, 9999999999999999999999999999, -2⟩, euro⟩

/-- One cent, to be paid or to be received. -/
def cent (negative : Bool) : Money := ⟨.finite ⟨negative, 1, -2⟩, euro⟩

/-- To the largest amount a cent is added after one is taken away, and not before. -/
theorem largest_total_exact :
    [cent true, cent false].foldlM plus largest = .ok largest ∧
      largest.IsExactly euro
        (largest.amount.value + ([cent true, cent false].map (·.amount.value)).sum) ∧
      [cent false, cent true].foldlM plus largest = .error (.arithmetic .invalidOperation) := by
  have hmade : ∀ m ∈ [cent true, cent false], ∃ d, ofDatum euro d = .ok m := by
    intro m hm
    fin_cases hm
    · exact ⟨.decimal (cent true).amount, rfl⟩
    · exact ⟨.decimal (cent false).amount, rfl⟩
  have hrun : [cent true, cent false].foldlM plus largest = .ok largest := rfl
  obtain ⟨-, htotal, -⟩ := total_exact euro (by decide) (by decide) largest
    [cent true, cent false] ⟨.decimal largest.amount, rfl⟩ hmade rfl (by decide)
  exact ⟨hrun, htotal largest hrun, rfl⟩

/-- A value that is no number can be an amount, and a step from it neither gives a sum nor
stops. -/
theorem nan_neither_exact_nor_refused :
    ofDatum euro (.text "NaN") = .ok ⟨.nan false false 0, euro⟩ ∧
      ofDatum euro (.whole 1) = .ok ⟨.finite ⟨false, 100, -2⟩, euro⟩ ∧
      ∀ sum, ¬ExactOrRefused euro sum
        (plus ⟨.nan false false 0, euro⟩ ⟨.finite ⟨false, 100, -2⟩, euro⟩) := by
  refine ⟨rfl, rfl, ?_⟩
  rintro sum ⟨units, -, houtcome⟩
  have hplus : plus ⟨.nan false false 0, euro⟩ ⟨.finite ⟨false, 100, -2⟩, euro⟩ =
      .ok ⟨.nan false false 0, euro⟩ := rfl
  rw [hplus] at houtcome
  split at houtcome
  · obtain ⟨m, hm, hexact⟩ := houtcome
    obtain rfl := Except.ok.inj hm
    exact nomatch hexact.value.isFinite
  · exact nomatch houtcome

end Money

end Passbook
