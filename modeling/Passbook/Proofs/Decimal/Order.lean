import Passbook.Decimal.Order
import Passbook.Proofs.Decimal.Value

/-!
# The order of decimals is the order of their values

Comparing two finite decimals compares the numbers they stand for, whatever their coefficients
and powers of ten. A decimal that is found not to be below zero is a number from zero up, or the
positive infinity.
-/

namespace Passbook

namespace Scaled

/-- A size as a count of the units of the finer of its exponent and another one. -/
theorem magnitude_eq_aligned (x : Scaled) (e : Int) :
    x.magnitude = (x.coefficient * Nat.pow 10 (x.exponent - e).toNat : Nat) *
      (10 : ℚ) ^ min x.exponent e := by
  have he : (x.exponent - e).toNat = (x.exponent - min x.exponent e).toNat := by omega
  rw [he, Nat.pow_eq, magnitude, natCast_mul_zpow (min_le_left _ _)]

/-- Counts of a unit compare as they do without the unit. -/
theorem compare_natCast_mul {u : ℚ} (hu : 0 < u) (m n : Nat) :
    compare ((m : ℚ) * u) (n * u) = compare m n := by
  rcases lt_trichotomy m n with hmn | rfl | hmn
  · rw [compare_lt_iff_lt.mpr hmn, compare_lt_iff_lt.mpr]
    gcongr
  · rw [compare_eq_iff_eq.mpr rfl, compare_eq_iff_eq.mpr rfl]
  · rw [compare_gt_iff_gt.mpr hmn, compare_gt_iff_gt.mpr]
    gcongr

/-- The comparison of sizes by first digit, then by digits, is the comparison of the sizes. -/
theorem compareMagnitude_eq {x y : Scaled} (hx : x.coefficient ≠ 0) (hy : y.coefficient ≠ 0) :
    compareMagnitude x y = compare x.magnitude y.magnitude := by
  unfold compareMagnitude
  rcases lt_trichotomy x.adjusted y.adjusted with h | h | h
  · have hm : x.magnitude < y.magnitude :=
      ((adjusted_le_iff hx).mp (Int.le_sub_one_of_lt h)).trans_le
        (by simpa using ten_pow_adjusted_le hy)
    rw [compare_lt_iff_lt.mpr h, compare_lt_iff_lt.mpr hm]
  · rw [compare_eq_iff_eq.mpr h, x.magnitude_eq_aligned y.exponent,
      y.magnitude_eq_aligned x.exponent, min_comm y.exponent, compare_natCast_mul (by positivity)]
  · have hm : y.magnitude < x.magnitude :=
      ((adjusted_le_iff hy).mp (Int.le_sub_one_of_lt h)).trans_le
        (by simpa using ten_pow_adjusted_le hx)
    rw [compare_gt_iff_gt.mpr h, compare_gt_iff_gt.mpr hm]

private theorem compare_neg_neg (a b : ℚ) : compare (-a) (-b) = compare b a := by
  rcases lt_trichotomy a b with h | rfl | h
  · rw [compare_gt_iff_gt.mpr h, compare_gt_iff_gt.mpr (neg_lt_neg h)]
  · rw [compare_eq_iff_eq.mpr rfl, compare_eq_iff_eq.mpr rfl]
  · rw [compare_lt_iff_lt.mpr h, compare_lt_iff_lt.mpr (neg_lt_neg h)]

/-- Two finite decimals compare as the numbers they stand for. -/
theorem cmp_eq (x y : Scaled) : x.cmp y = compare x.value y.value := by
  unfold cmp
  split
  · rename_i hx hy
    rw [value_eq_zero_iff.mpr hx, value_eq_zero_iff.mpr hy, compare_eq_iff_eq.mpr rfl]
  · rename_i hx hy
    have hp := magnitude_pos (x := y) hy
    rw [value_eq_zero_iff.mpr hx, value]
    split
    · exact (compare_gt_iff_gt.mpr (by linarith)).symm
    · exact (compare_lt_iff_lt.mpr hp).symm
  · rename_i hy hx
    have hp := magnitude_pos (x := x) hx
    rw [value_eq_zero_iff.mpr hy, value]
    split
    · exact (compare_lt_iff_lt.mpr (by linarith)).symm
    · exact (compare_gt_iff_gt.mpr hp).symm
  · rename_i hx hy _
    have hxp := magnitude_pos hx
    have hyp := magnitude_pos hy
    unfold value
    cases x.negative <;> cases y.negative
    · simpa using compareMagnitude_eq hx hy
    · exact (compare_gt_iff_gt.mpr (by simp; linarith)).symm
    · exact (compare_lt_iff_lt.mpr (by simp; linarith)).symm
    · simpa [compare_neg_neg] using compareMagnitude_eq hy hx

end Scaled

namespace Decimal

variable {x y : Decimal} {p q : ℚ}

/-- Finite decimals compare as their values do. -/
theorem compare?_eq (hx : x.HasValue p) (hy : y.HasValue q) :
    x.compare? y = some (compare p q) := by
  obtain ⟨a, rfl, rfl⟩ := hasValue_iff.mp hx
  obtain ⟨b, rfl, rfl⟩ := hasValue_iff.mp hy
  simp only [compare?, Scaled.cmp_eq]

/-- Whether one number is below another one is the order of the numbers. -/
theorem lt_eq (hx : x.HasValue p) (hy : y.HasValue q) : x.lt y = .ok (decide (p < q)) := by
  rw [lt, compare?_eq hx hy]
  rcases lt_trichotomy p q with h | h | h
  · simp [compare_lt_iff_lt.mpr h, h]
  · simp [h]
  · simp [compare_gt_iff_gt.mpr h, h.le]

/-- Whether one number is at most another one is the order of the numbers. -/
theorem le_eq (hx : x.HasValue p) (hy : y.HasValue q) : x.le y = .ok (decide (p ≤ q)) := by
  rw [le, compare?_eq hx hy]
  rcases lt_trichotomy p q with h | h | h
  · simp [compare_lt_iff_lt.mpr h, h.le]
  · simp [h]
  · simp [compare_gt_iff_gt.mpr h, h]

/-- Equality of two numbers is equality of their values. -/
theorem sameValue_eq (hx : x.HasValue p) (hy : y.HasValue q) :
    x.sameValue y = .ok (decide (p = q)) := by
  rw [sameValue, compare?_eq hx hy]
  rcases lt_trichotomy p q with h | h | h
  · simp [compare_lt_iff_lt.mpr h, h.ne]
  · simp [h]
  · simp [compare_gt_iff_gt.mpr h, h.ne']

/-- The smaller of two numbers stands for the minimum. -/
theorem lesser_hasValue (hx : x.HasValue p) (hy : y.HasValue q) {z : Decimal}
    (h : x.lesser y = .ok z) : z.HasValue (min p q) := by
  rw [lesser, lt_eq hy hx] at h
  obtain rfl := Except.ok.inj h
  by_cases hqp : q < p
  · simpa [hqp, min_eq_right hqp.le] using hy
  · simpa [hqp, min_eq_left (not_lt.mp hqp)] using hx

/-- The decimal is found not to be below zero: it is a number from zero up or the positive
infinity. -/
def NotNegative (d : Decimal) : Prop := d.lt 0 = .ok false

/-- What is not negative is a number from zero up or positive infinity. -/
theorem notNegative_iff {d : Decimal} :
    d.NotNegative ↔ (∃ q, 0 ≤ q ∧ d.HasValue q) ∨ d = infinite false := by
  cases d with
  | finite a =>
    have ha : (finite a).HasValue a.value := by simp
    simp [NotNegative, lt_eq ha hasValue_zero]
  | infinite s =>
    change (infinite s).lt (finite (Scaled.ofInt 0)) = .ok false ↔ _
    cases s <;> simp [lt, compare?]
  | nan s g p =>
    change (nan s g p).lt (finite (Scaled.ofInt 0)) = .ok false ↔ _
    simp [lt, compare?]

/-- The value of a decimal that is not negative is not below zero. -/
theorem NotNegative.nonneg (h : x.NotNegative) (hx : x.HasValue p) : 0 ≤ p := by
  rcases notNegative_iff.mp h with ⟨q, hq, hxq⟩ | rfl
  · rwa [hx.unique hxq]
  · exact absurd hx not_hasValue_infinite

theorem notNegative_zero : (0 : Decimal).NotNegative :=
  notNegative_iff.mpr (.inl ⟨0, le_rfl, hasValue_zero⟩)

/-- What is not negative and not above a number is a number. -/
theorem NotNegative.hasValue_of_not_lt (h : x.NotNegative) (hy : y.HasValue q)
    (hlt : y.lt x = .ok false) : ∃ p, 0 ≤ p ∧ p ≤ q ∧ x.HasValue p := by
  rcases notNegative_iff.mp h with ⟨p, hp, hxp⟩ | rfl
  · refine ⟨p, hp, ?_, hxp⟩
    simpa [lt_eq hy hxp] using hlt
  · obtain ⟨b, rfl, rfl⟩ := hasValue_iff.mp hy
    simp [lt, compare?] at hlt

end Decimal

end Passbook
