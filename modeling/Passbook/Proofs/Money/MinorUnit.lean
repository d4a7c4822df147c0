import Passbook.Proofs.Decimal.AtMost
import Passbook.Proofs.Money

/-!
# Rounding to the minor unit

A number has one nearest multiple of the minor unit, of two equally near ones the one further from
zero. Rounding to the minor unit gives this multiple with the minor unit as its last place and with
the sign of the number, which a zero keeps, too. It looks at all digits at once, however many there
are, and refuses exactly the multiples that have more digits than the context keeps.

So rounding again changes nothing, the opposite number is rounded to the opposite multiple, the
order of numbers is kept, and an amount of money is left alone.
-/

namespace Passbook

open Decimal

section
variable {e : Int} {p q m n : ℚ}

/-- The multiple of `10 ^ e` nearest to `q`: no other one is nearer, and none that is as near is
further from zero. -/
structure IsNearestMultiple (e : Int) (q m : ℚ) : Prop where
  mem : m ∈ grid e
  nearest : ∀ n ∈ grid e, |m - q| ≤ |n - q|
  furthest : ∀ n ∈ grid e, |n - q| = |m - q| → |n| ≤ |m|

/-- Two multiples are together at least one unit away from every number. -/
theorem ten_pow_le_abs_sub_add (hm : m ∈ grid e) (hn : n ∈ grid e) (hne : m ≠ n) :
    (10 : ℚ) ^ e ≤ |m - q| + |n - q| := by
  have hunit := ten_pow_le_of_mem_grid (abs_mem_iff.mpr (sub_mem hm hn))
    (abs_pos.mpr (sub_ne_zero.mpr hne))
  have htriangle := abs_sub_le m q n
  rw [abs_sub_comm q] at htriangle
  exact hunit.trans htriangle

/-- A number from zero up is rounded down by less than half a unit. -/
theorem sub_half_lt_nearestMultiple (e : Int) (h : 0 ≤ q) :
    q - 10 ^ e / 2 < nearestMultiple e q := by
  have hunit : (0 : ℚ) < 10 ^ e := by positivity
  have hquotient : 0 ≤ q / 10 ^ e := by positivity
  have hfloor := Int.lt_floor_add_one (q / 10 ^ e + 1 / 2)
  rw [nearestMultiple, nearestInt, if_neg (not_lt.mpr hquotient)]
  calc q - 10 ^ e / 2 = (q / 10 ^ e - 1 / 2) * 10 ^ e := by field_simp
    _ < ⌊q / 10 ^ e + 1 / 2⌋ * 10 ^ e := by
      gcongr
      linarith

/-- A multiple that is as near to a number from zero up as the nearest one is not further from zero.
If it is another one, then both are half a unit away, and the nearest one lies above the number. -/
private theorem abs_le_nearestMultiple (hq : 0 ≤ q) (hn : n ∈ grid e)
    (h : |n - q| ≤ |nearestMultiple e q - q|) : |n| ≤ nearestMultiple e q := by
  have hnonneg := nearestMultiple_nonneg hq e
  by_cases hne : nearestMultiple e q = n
  · rw [← hne, abs_of_nonneg hnonneg]
  · have hhalf := abs_nearestMultiple_sub_le e q
    have hapart : (10 : ℚ) ^ e ≤ |nearestMultiple e q - q| + |n - q| :=
      ten_pow_le_abs_sub_add (nearestMultiple_mem_grid e q) hn hne
    have hlow := sub_half_lt_nearestMultiple e hq
    have habove : nearestMultiple e q = q + 10 ^ e / 2 := by
      rcases abs_cases (nearestMultiple e q - q) with ⟨habs, -⟩ | ⟨habs, -⟩
      · linarith
      · linarith
    obtain ⟨hlower, hupper⟩ := abs_le.mp (h.trans hhalf)
    exact abs_le.mpr ⟨by linarith, by linarith⟩

/-- The size of the nearest multiple is the multiple nearest to the size. -/
theorem abs_nearestMultiple (e : Int) (q : ℚ) : |nearestMultiple e q| = nearestMultiple e |q| := by
  rcases le_total 0 q with hq | hq
  · rw [abs_of_nonneg hq, abs_of_nonneg (nearestMultiple_nonneg hq e)]
  · have hopposite := nearestMultiple_nonneg (neg_nonneg.mpr hq) e
    rw [abs_of_nonpos hq, nearestMultiple_neg]
    rw [nearestMultiple_neg] at hopposite
    exact abs_of_nonpos (neg_nonneg.mp hopposite)

/-- A number of no smaller size is not rounded to a multiple of smaller size. -/
theorem abs_nearestMultiple_mono (e : Int) (h : |p| ≤ |q|) :
    |nearestMultiple e p| ≤ |nearestMultiple e q| := by
  rw [abs_nearestMultiple, abs_nearestMultiple]
  exact nearestMultiple_mono e h

/-- The nearest multiple is nearest, and away from zero between two. -/
theorem isNearestMultiple_nearestMultiple (e : Int) (q : ℚ) :
    IsNearestMultiple e q (nearestMultiple e q) where
  mem := nearestMultiple_mem_grid e q
  nearest n hn := by
    by_cases hne : nearestMultiple e q = n
    · rw [hne]
    · have hhalf := abs_nearestMultiple_sub_le e q
      have hapart : (10 : ℚ) ^ e ≤ |nearestMultiple e q - q| + |n - q| :=
        ten_pow_le_abs_sub_add (nearestMultiple_mem_grid e q) hn hne
      linarith
  furthest n hn h := by
    rcases le_total 0 q with hq | hq
    · exact (abs_le_nearestMultiple hq hn h.le).trans (le_abs_self _)
    · have hopposite : |-n - -q| ≤ |nearestMultiple e (-q) - -q| := by
        rw [nearestMultiple_neg, neg_sub_neg, neg_sub_neg, abs_sub_comm, abs_sub_comm q, h]
      have habs := abs_le_nearestMultiple (neg_nonneg.mpr hq) (neg_mem hn) hopposite
      rw [abs_neg, nearestMultiple_neg] at habs
      exact habs.trans (neg_le_abs _)

/-- A number has one nearest multiple. -/
theorem isNearestMultiple_iff : IsNearestMultiple e q m ↔ m = nearestMultiple e q := by
  refine ⟨fun h => ?_, fun h => h ▸ isNearestMultiple_nearestMultiple e q⟩
  have hnearest := isNearestMultiple_nearestMultiple e q
  have hdistance : |m - q| = |nearestMultiple e q - q| :=
    le_antisymm (h.nearest _ hnearest.mem) (hnearest.nearest m h.mem)
  have hsize : |m| = |nearestMultiple e q| :=
    le_antisymm (hnearest.furthest m h.mem hdistance) (h.furthest _ hnearest.mem hdistance.symm)
  rcases abs_eq_abs.mp hsize with hsame | hopposite
  · exact hsame
  · -- two opposite multiples are equally near to zero alone, which is a multiple itself
    have hsquare := sq_eq_sq_iff_abs_eq_abs _ _ |>.mpr hdistance
    have hzero : nearestMultiple e q * q = 0 := by
      rw [hopposite] at hsquare
      linarith
    rcases mul_eq_zero.mp hzero with hmultiple | rfl
    · rw [hopposite, hmultiple, neg_zero]
    · rw [hopposite, nearestMultiple_zero, neg_zero]

end

namespace Scaled

variable {x : Scaled} {e : Int}

/-- A number is quantized if and only if its nearest multiple has few enough units for the context
and lies below the limit. -/
theorem quantize_isOk_iff (he : e ≤ maxExponent) :
    (∃ y, x.quantize e = .ok y) ↔
      |nearestMultiple e x.value| < 10 ^ (e + precision) ∧ |nearestMultiple e x.value| < limit := by
  constructor
  · rintro ⟨y, hy⟩
    obtain ⟨hvalue, hfew, hlimit⟩ := quantize_eq_ok hy
    rw [← hvalue, abs_value]
    exact ⟨hfew, hlimit⟩
  · rintro ⟨hfew, hlimit⟩
    by_cases hc : x.coefficient = 0
    · exact ⟨_, if_pos hc⟩
    · have hroom : ¬(precision : Int) < digitCount x.coefficient + (x.exponent - e) := by
        intro hmany
        exact not_lt.mpr (le_abs_nearestMultiple_of_digits hc hmany) hfew
      have hplace := x.value_toPlace e
      rw [← hplace, abs_value] at hlimit
      have hdigits : digitCount (Rounding.halfUp.toPlace x e).coefficient ≤ precision := by
        rw [toPlace_eq, digitCount_nearestInt_le_iff]
        exact hfew
      have hbelow : (Rounding.halfUp.toPlace x e).adjusted ≤ maxExponent := by
        rcases magnitude_lt_limit_iff.mp hlimit with hzero | hbelow
        · rw [adjusted, hzero]
          exact (show e + 1 - 1 ≤ maxExponent by omega)
        · exact hbelow
      rw [quantize, if_neg hc, if_neg hroom]
      exact ⟨_, if_neg (not_or.mpr ⟨not_lt.mpr hdigits, not_lt.mpr hbelow⟩)⟩

theorem toPlace_opposite (mode : Rounding) (x : Scaled) (e : Int) :
    mode.toPlace x.opposite e = (mode.toPlace x e).opposite := rfl

/-- The sign plays no part in quantizing. -/
theorem quantize_opposite (x : Scaled) (e : Int) :
    x.opposite.quantize e = (x.quantize e).map opposite := by
  simp only [quantize, toPlace_opposite, apply_ite (Except.map opposite)]
  rfl

/-- A quantized number is quantized to itself. -/
theorem quantize_idem {y : Scaled} (h : x.quantize e = .ok y) : y.quantize e = .ok y := by
  obtain ⟨hvalue, hfew, hlimit⟩ := quantize_eq_ok h
  have hmem : y.value ∈ grid e := hvalue ▸ nearestMultiple_mem_grid e x.value
  rw [← abs_value] at hfew hlimit
  obtain ⟨z, hz, hsign, hsame⟩ := quantize_of_mem_grid hmem hfew hlimit
  have hplace : z.exponent = y.exponent := (quantize_units hz).1.trans (quantize_units h).1.symm
  rwa [eq_of_value hsign hplace hsame] at hz

end Scaled

section
variable {x y : Decimal} {places : Int} {p q : ℚ}

/-- A number of no larger size than one that is rounded is not refused. -/
theorem quantizeMoney_of_abs_le {z : Decimal} (hx : x.HasValue p) (hy : y.HasValue q)
    (h : |p| ≤ |q|) (hz : quantizeMoney y places = .ok z) :
    ∃ w, quantizeMoney x places = .ok w := by
  obtain ⟨u, rfl, rfl⟩ := hasValue_iff.mp hx
  obtain ⟨e, he, hquantize⟩ := bind_eq_ok_iff.mp hz
  obtain ⟨-, hfew, hlimit⟩ := quantize_hasValue hy hquantize
  have hsize := abs_nearestMultiple_mono e h
  obtain ⟨w, hw⟩ := (Scaled.quantize_isOk_iff (x := u) (quantumExponent_le_maxExponent he)).mpr
    ⟨hsize.trans_lt hfew, hsize.trans_lt hlimit⟩
  exact ⟨finite w, by rw [quantizeMoney, he, ok_bind, quantize, hw]; rfl⟩

/-- A larger amount is not rounded to fewer minor units. -/
theorem Decimal.AtMost.quantizeMoney (h : x.AtMost y) :
    WhereBoth AtMost (quantizeMoney x places) (quantizeMoney y places) := by
  intro a b ha hb
  obtain ⟨e, he, hx, -⟩ := quantizeMoney_hasValue h.hasValue_left ha
  obtain ⟨e', he', hy, -⟩ := quantizeMoney_hasValue h.hasValue_right hb
  obtain rfl := Except.ok.inj (he.symm.trans he')
  exact hx.atMost hy (nearestMultiple_mono e h.le)

/-- The opposite of an amount is rounded to the opposite. -/
theorem quantizeMoney_opposite (x : Decimal) (places : Int) :
    quantizeMoney x.opposite places = (quantizeMoney x places).map Decimal.opposite := by
  rw [quantizeMoney, quantizeMoney]
  cases quantumExponent places with
  | error f => rfl
  | ok e =>
    rw [ok_bind, ok_bind]
    cases x with
    | finite u =>
      rw [Decimal.opposite, quantize, quantize, Scaled.quantize_opposite]
      cases u.quantize e <;> rfl
    | infinite s => rfl
    | nan s signaling payload => cases signaling <;> rfl

/-- A rounded amount is left alone, also a value that is no number. -/
theorem quantizeMoney_idem (h : quantizeMoney x places = .ok y) :
    quantizeMoney y places = .ok y := by
  obtain ⟨e, he, hquantize⟩ := bind_eq_ok_iff.mp h
  rw [quantizeMoney, he, ok_bind]
  cases x with
  | finite u =>
    obtain ⟨v, hv, rfl⟩ := map_eq_ok_iff.mp hquantize
    rw [quantize, Scaled.quantize_idem hv]
    rfl
  | infinite s => cases hquantize
  | nan s signaling payload =>
    cases signaling with
    | true => cases hquantize
    | false =>
      obtain rfl := Except.ok.inj hquantize
      exact congrArg (fun n => Except.ok (nan s false n)) (Nat.mod_mod payload _)

end

/-- An amount of money is left alone by its currency. -/
theorem Money.ofDatum_amount {currency : Currency} {amount : Datum} {m : Money}
    (h : ofDatum currency amount = .ok m) : ofDatum currency (.decimal m.amount) = .ok m := by
  obtain ⟨d, -, h⟩ := bind_eq_ok_iff.mp h
  obtain ⟨rounded, hrounded, h⟩ := bind_eq_ok_iff.mp (liftM_eq_ok_iff.mp h)
  obtain rfl := pure_eq_ok_iff.mp h
  change (liftM (of currency rounded) : Except Error Money) = _
  rw [of, quantizeMoney_idem hrounded]
  rfl

/-- The outcome of rounding a number once to so many places. There is one multiple of the minor unit
that is nearest to the number. It is returned with exactly these places and the sign of the number,
or refused because the context does not keep all its digits. -/
def RoundedToUnit (places : Int) (x : Scaled) (outcome : Except Fault Decimal) : Prop :=
  ∃ units : Int,
    (∀ m, IsNearestMultiple (-places) x.value m ↔ m = units * 10 ^ (-places)) ∧
    (outcome = .error .invalidOperation ↔ precision < digitCount units.natAbs) ∧
    (digitCount units.natAbs ≤ precision →
      ∃ y, outcome = .ok (finite y) ∧ y.value = units * 10 ^ (-places) ∧
        y.exponent = -places ∧ y.negative = x.negative)

/-- A number is rounded once to the places of a currency. -/
theorem roundedToUnit_quantizeMoney {places : Int} (h0 : 0 ≤ places) (h : places ≤ maxExponent)
    (x : Scaled) : RoundedToUnit places x (quantizeMoney (finite x) places) := by
  refine ⟨nearestInt (x.value / 10 ^ (-places)), fun m => isNearestMultiple_iff, ?_, ?_⟩
  · rw [quantizeMoney_finite h0 h]
    split
    next hfew => simpa using hfew
    next hmany => simpa using hmany
  · intro hfew
    have hvalue := x.value_toPlace (-places)
    rw [Scaled.toPlace_eq] at hvalue
    rw [quantizeMoney_finite h0 h, if_pos hfew]
    exact ⟨_, rfl, hvalue, rfl, rfl⟩

/-- Rounding to the minor unit rounds a number of any size once, halves away from zero, or refuses
the multiple of the minor unit that has more digits than the context keeps. Rounding again changes
nothing, opposite numbers are rounded to opposite ones, larger numbers to no smaller ones, and an
amount of money is left as it is. -/
theorem quantizeMoney_exact :
    (∀ (x : Scaled) (places : Int), 0 ≤ places → places ≤ maxExponent →
      RoundedToUnit places x (quantizeMoney (finite x) places)) ∧
    (∀ (x y : Decimal) (places : Int), quantizeMoney x places = .ok y →
      quantizeMoney y places = .ok y) ∧
    (∀ (x : Decimal) (places : Int),
      quantizeMoney x.opposite places = (quantizeMoney x places).map Decimal.opposite) ∧
    (∀ (x y : Decimal) (places : Int), x.AtMost y →
      WhereBoth AtMost (quantizeMoney x places) (quantizeMoney y places)) ∧
    ∀ (currency : Currency) (amount : Datum) (m : Money), Money.ofDatum currency amount = .ok m →
      Money.ofDatum currency (.decimal m.amount) = .ok m := by
  refine ⟨fun x places h0 h => roundedToUnit_quantizeMoney h0 h x, ?_, quantizeMoney_opposite, ?_,
    ?_⟩
  · exact fun x y places => quantizeMoney_idem
  · exact fun x y places => AtMost.quantizeMoney
  · exact fun currency amount m => Money.ofDatum_amount

/-- The largest amount that the context keeps in cents, and half a cent more. -/
def halfBeyond : Scaled := ⟨false, 99999999999999999999999999995, -3⟩

/-- Less than half a cent that is owed. -/
def littleOwed : Scaled := ⟨true, 4, -3⟩

/-- The half would carry into a further digit and is refused. The little that is owed comes to a
zero that is still owed, which is rounded to itself and stands before the cent that half a cent
comes to. Yen that half a yen was rounded up to are left alone. -/
theorem halfBeyond_refused :
    quantizeMoney (finite halfBeyond) 2 = .error .invalidOperation ∧
      RoundedToUnit 2 halfBeyond (quantizeMoney (finite halfBeyond) 2) ∧
      quantizeMoney (finite littleOwed) 2 = .ok (finite ⟨true, 0, -2⟩) ∧
      RoundedToUnit 2 littleOwed (quantizeMoney (finite littleOwed) 2) ∧
      quantizeMoney (finite ⟨true, 0, -2⟩) 2 = .ok (finite ⟨true, 0, -2⟩) ∧
      (finite ⟨true, 0, -2⟩).AtMost (finite ⟨false, 1, -2⟩) ∧
      Money.ofDatum ⟨"JPY", 0⟩ (.decimal (finite ⟨false, 101, 0⟩)) =
        .ok ⟨finite ⟨false, 101, 0⟩, ⟨"JPY", 0⟩⟩ := by
  obtain ⟨hrounded, hagain, -, horder, hmoney⟩ := quantizeMoney_exact
  have hle : (finite littleOwed).AtMost (finite ⟨false, 5, -3⟩) :=
    AtMost.of_le rfl rfl (by decide)
  refine ⟨rfl, hrounded halfBeyond 2 (by decide) (by decide), rfl,
    hrounded littleOwed 2 (by decide) (by decide), hagain (finite littleOwed) _ 2 rfl,
    horder _ _ 2 hle _ _ rfl rfl, ?_⟩
  exact hmoney ⟨"JPY", 0⟩ (.text "100.5") ⟨finite ⟨false, 101, 0⟩, ⟨"JPY", 0⟩⟩ rfl

end Passbook
