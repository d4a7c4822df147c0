import Mathlib
import Passbook.Decimal.Arithmetic

/-!
# The number a decimal stands for

A finite decimal stands for a rational number, its value; trailing zeros and the sign of zero
do not change it. The exact results of arithmetic have the values that arithmetic on numbers
gives, and the place of the first digit bounds the value from both sides.
-/

namespace Passbook

theorem lt_ten_pow_digitCount (n : Nat) : n < 10 ^ digitCount n :=
  (digitCount_le_iff (digitCount_pos n)).mp le_rfl

/-- A nonzero number has its first digit at the place that its digit count says. -/
theorem ten_pow_le_of_digitCount {n : Nat} (hn : n ≠ 0) : 10 ^ (digitCount n - 1) ≤ n := by
  rcases Nat.eq_zero_or_pos (digitCount n - 1) with hd | hd
  · rw [hd, pow_zero]
    exact Nat.pos_of_ne_zero hn
  · have h := (not_congr (digitCount_le_iff (n := n) hd)).mp (by omega)
    simpa only [Nat.pow_eq, not_lt] using h

namespace Scaled

/-- The size of the number, without its sign. -/
def magnitude (x : Scaled) : ℚ := x.coefficient * (10 : ℚ) ^ x.exponent

/-- The number that the sign, the coefficient and the power of ten stand for. -/
def value (x : Scaled) : ℚ := if x.negative then -x.magnitude else x.magnitude

theorem magnitude_nonneg (x : Scaled) : 0 ≤ x.magnitude := by
  unfold magnitude
  positivity

theorem magnitude_eq_zero_iff {x : Scaled} : x.magnitude = 0 ↔ x.coefficient = 0 := by
  have h : (10 : ℚ) ^ x.exponent ≠ 0 := by positivity
  simp [magnitude, h]

theorem magnitude_pos {x : Scaled} (h : x.coefficient ≠ 0) : 0 < x.magnitude :=
  lt_of_le_of_ne x.magnitude_nonneg fun h0 => h (magnitude_eq_zero_iff.mp h0.symm)

/-- The size of the value is the magnitude. -/
@[simp] theorem abs_value (x : Scaled) : |x.value| = x.magnitude := by
  unfold value
  split
  · rw [abs_neg, abs_of_nonneg x.magnitude_nonneg]
  · exact abs_of_nonneg x.magnitude_nonneg

theorem value_eq_zero_iff {x : Scaled} : x.value = 0 ↔ x.coefficient = 0 := by
  rw [← abs_eq_zero, abs_value, magnitude_eq_zero_iff]

/-- A number is known by its sign, its last place and its value. -/
theorem eq_of_value {x y : Scaled} (hsign : x.negative = y.negative) (hplace : x.exponent = y.exponent)
    (hvalue : x.value = y.value) : x = y := by
  have hunit : (10 : ℚ) ^ y.exponent ≠ 0 := by positivity
  have hmagnitude : x.magnitude = y.magnitude := by rw [← abs_value, hvalue, abs_value]
  rw [magnitude, magnitude, hplace, mul_left_inj' hunit, Nat.cast_inj] at hmagnitude
  cases x
  cases y
  simp_all

@[simp] theorem value_opposite (x : Scaled) : x.opposite.value = -x.value := by
  have hm : x.opposite.magnitude = x.magnitude := rfl
  unfold value
  rw [hm]
  cases h : x.negative <;> simp [opposite, h]

@[simp] theorem value_ofInt (n : Int) : (ofInt n).value = n := by
  simp only [value, magnitude, ofInt, zpow_zero, mul_one, decide_eq_true_eq]
  split <;> rename_i h
  · rw [Nat.cast_natAbs, abs_of_neg h, Int.cast_neg, neg_neg]
  · rw [Nat.cast_natAbs, abs_of_nonneg (not_lt.mp h)]

/-- A nonzero number is at least the power of ten of its first digit. -/
theorem ten_pow_adjusted_le {x : Scaled} (h : x.coefficient ≠ 0) :
    (10 : ℚ) ^ x.adjusted ≤ x.magnitude := by
  have hd := digitCount_pos x.coefficient
  have he : x.adjusted = ((digitCount x.coefficient - 1 : Nat) : Int) + x.exponent := by
    unfold adjusted
    omega
  rw [he, zpow_add₀ (by norm_num), zpow_natCast, magnitude]
  gcongr
  exact_mod_cast ten_pow_le_of_digitCount h

/-- A number is below the power of ten that follows its first digit. -/
theorem magnitude_lt (x : Scaled) : x.magnitude < (10 : ℚ) ^ (x.adjusted + 1) := by
  have he : x.adjusted + 1 = (digitCount x.coefficient : Int) + x.exponent := by
    unfold adjusted
    omega
  rw [he, zpow_add₀ (by norm_num), zpow_natCast, magnitude]
  gcongr
  exact_mod_cast lt_ten_pow_digitCount x.coefficient

/-- The place of the first digit is at most `m` exactly below the next power of ten. -/
theorem adjusted_le_iff {x : Scaled} (h : x.coefficient ≠ 0) {m : Int} :
    x.adjusted ≤ m ↔ x.magnitude < (10 : ℚ) ^ (m + 1) := by
  constructor
  · intro ha
    exact x.magnitude_lt.trans_le (zpow_le_zpow_right₀ (by norm_num) (by omega))
  · intro hm
    by_contra hc
    have hle := ten_pow_adjusted_le h
    have hp : (10 : ℚ) ^ (m + 1) ≤ 10 ^ x.adjusted :=
      zpow_le_zpow_right₀ (by norm_num) (by omega)
    linarith

/-- Counting in a finer unit changes no value. -/
theorem natCast_mul_zpow {e k : Int} (h : e ≤ k) (c : Nat) :
    ((c * 10 ^ (k - e).toNat : Nat) : ℚ) * 10 ^ e = c * 10 ^ k := by
  have hk : (k - e).toNat + e = k := by omega
  rw [Nat.cast_mul, Nat.cast_pow, Nat.cast_ofNat, mul_assoc, ← zpow_natCast,
    ← zpow_add₀ (by norm_num), hk]

/-- A number is worth its count of units of any place that is not coarser than its own. -/
theorem value_eq_units {x : Scaled} {e : Int} (h : e ≤ x.exponent) :
    x.value = x.units e * 10 ^ e := by
  unfold units
  split
  · rename_i hc
    rw [value_eq_zero_iff.mpr hc, Int.cast_zero, zero_mul]
  · have hm : x.magnitude = (x.coefficient * Nat.pow 10 (x.exponent - e).toNat : Nat) * 10 ^ e :=
      (natCast_mul_zpow h _).symm
    dsimp only
    split <;> rename_i hs
    · rw [value, if_pos hs, hm, Int.cast_neg, Int.cast_natCast, neg_mul]
    · rw [value, if_neg hs, hm, Int.cast_natCast]

/-- The value of a whole number of units with an explicit sign. -/
theorem value_natAbs (s : Bool) (n e : Int) :
    (⟨if n = 0 then s else n < 0, n.natAbs, e⟩ : Scaled).value = n * 10 ^ e := by
  rcases lt_trichotomy n 0 with h | rfl | h
  · simp [value, magnitude, h, h.ne, Nat.cast_natAbs, abs_of_neg]
  · simp [value, magnitude]
  · simp [value, magnitude, h.le, h.ne', Nat.cast_natAbs, abs_of_pos h]

/-- The exact sum stands for the sum. -/
@[simp] theorem value_exactSum (x y : Scaled) : (exactSum x y).value = x.value + y.value := by
  have hx : x.value = x.units (min x.exponent y.exponent) * 10 ^ min x.exponent y.exponent :=
    value_eq_units (min_le_left _ _)
  have hy : y.value = y.units (min x.exponent y.exponent) * 10 ^ min x.exponent y.exponent :=
    value_eq_units (min_le_right _ _)
  rw [hx, hy, ← add_mul, ← Int.cast_add]
  have h := value_natAbs (x.negative && y.negative)
    (x.units (min x.exponent y.exponent) + y.units (min x.exponent y.exponent))
    (min x.exponent y.exponent)
  rw [← h]
  rfl

/-- The magnitude of a product is the product of the magnitudes. -/
theorem magnitude_exactProduct (x y : Scaled) :
    (exactProduct x y).magnitude = x.magnitude * y.magnitude := by
  simp only [magnitude, exactProduct, Nat.cast_mul]
  rw [zpow_add₀ (by norm_num)]
  ring

/-- The exact product stands for the product. -/
@[simp] theorem value_exactProduct (x y : Scaled) :
    (exactProduct x y).value = x.value * y.value := by
  have hs : (exactProduct x y).negative = (x.negative != y.negative) := rfl
  unfold value
  rw [hs, magnitude_exactProduct]
  cases x.negative <;> cases y.negative <;> simp

/-- The magnitude of a hundredth is the hundredth of the magnitude. -/
theorem magnitude_exactHundredth (x : Scaled) :
    x.exactHundredth.magnitude = x.magnitude / 100 := by
  unfold exactHundredth
  split <;> rename_i h
  · have hc : x.coefficient = x.coefficient / 100 * 100 := by omega
    have hq : (x.coefficient : ℚ) = (x.coefficient / 100 : Nat) * 100 := by exact_mod_cast hc
    simp only [magnitude, hq]
    ring
  · split <;> rename_i h10
    · have hc : x.coefficient = x.coefficient / 10 * 10 := by omega
      have hq : (x.coefficient : ℚ) = (x.coefficient / 10 : Nat) * 10 := by exact_mod_cast hc
      simp only [magnitude, hq, zpow_sub₀ (show (10 : ℚ) ≠ 0 by norm_num)]
      ring
    · simp only [magnitude, zpow_sub₀ (show (10 : ℚ) ≠ 0 by norm_num)]
      ring

/-- The exact hundredth stands for the hundredth. -/
@[simp] theorem value_exactHundredth (x : Scaled) : x.exactHundredth.value = x.value / 100 := by
  have hs : x.exactHundredth.negative = x.negative := by
    unfold exactHundredth
    split
    · rfl
    · split <;> rfl
  unfold value
  rw [hs, magnitude_exactHundredth]
  split <;> ring

end Scaled

namespace Decimal

/-- The number that a decimal stands for; infinities and values that are no numbers count as
zero. -/
def value : Decimal → ℚ
  | finite x => x.value
  | _ => 0

/-- The decimal is finite and stands for the number `q`. -/
def HasValue (d : Decimal) (q : ℚ) : Prop := d.isFinite = true ∧ d.value = q

variable {d : Decimal} {q : ℚ}

/-- A decimal has a value exactly if it is finite and stands for it. -/
theorem hasValue_iff : d.HasValue q ↔ ∃ x, d = finite x ∧ x.value = q := by
  cases d with
  | finite x => simp [HasValue, value]
  | infinite s => simp [HasValue, isFinite]
  | nan s g p => simp [HasValue, isFinite]

@[simp] theorem hasValue_finite {x : Scaled} : (finite x).HasValue q ↔ x.value = q := by
  simp [HasValue, value]

@[simp] theorem value_finite_unsigned (c : Nat) (e : Int) :
    (finite ⟨false, c, e⟩).value = c * (10 : ℚ) ^ e := rfl

@[simp] theorem not_hasValue_infinite {s : Bool} : ¬(infinite s).HasValue q := by
  simp [HasValue, isFinite]

@[simp] theorem not_hasValue_nan {s g : Bool} {p : Nat} : ¬(nan s g p).HasValue q := by
  simp [HasValue, isFinite]

theorem HasValue.value_eq (h : d.HasValue q) : d.value = q := h.2

theorem HasValue.isFinite (h : d.HasValue q) : d.isFinite = true := h.1

theorem hasValue_value (h : d.isFinite = true) : d.HasValue d.value := ⟨h, rfl⟩

theorem HasValue.unique {r : ℚ} (hq : d.HasValue q) (hr : d.HasValue r) : q = r :=
  hq.2.symm.trans hr.2

/-- A decimal literal stands for its number. -/
theorem hasValue_ofNat (n : Nat) : (OfNat.ofNat n : Decimal).HasValue n := by
  change (finite (Scaled.ofInt n)).HasValue n
  simp

theorem hasValue_zero : (0 : Decimal).HasValue 0 := by
  exact_mod_cast hasValue_ofNat 0

theorem hasValue_hundred : (100 : Decimal).HasValue 100 := by
  exact_mod_cast hasValue_ofNat 100

/-- The opposite stands for the opposite number. -/
theorem HasValue.opposite (h : d.HasValue q) : d.opposite.HasValue (-q) := by
  obtain ⟨x, rfl, rfl⟩ := hasValue_iff.mp h
  simp [Decimal.opposite]

/-- The values of decimals are the numbers that they are known to have as values. -/
theorem map_value_eq_of_forall₂ {xs : List Decimal} {qs : List ℚ}
    (h : List.Forall₂ HasValue xs qs) : xs.map value = qs := by
  induction h with
  | nil => rfl
  | cons hfirst _ ih => rw [List.map_cons, hfirst.value_eq, ih]

/-- Numbers stand for their values. -/
theorem forall₂_hasValue_map {xs : List Decimal} (h : ∀ x ∈ xs, x.HasValue x.value) :
    List.Forall₂ HasValue xs (xs.map value) := by
  rw [List.forall₂_map_right_iff, List.forall₂_same]
  exact h

/-- Decimals that are known to have values are finite. -/
theorem hasValue_value_of_forall₂ {xs : List Decimal} {qs : List ℚ}
    (h : List.Forall₂ HasValue xs qs) : ∀ x ∈ xs, x.HasValue x.value := by
  induction h with
  | nil => simp
  | cons hfirst _ ih => exact List.forall_mem_cons.mpr ⟨hasValue_value hfirst.isFinite, ih⟩

end Decimal

end Passbook
