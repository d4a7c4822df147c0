import Passbook.Proofs.Decimal.NearestWhole
import Passbook.Proofs.Decimal.Representable

/-!
# Rounding to the context

The context keeps so many digits of a number, counted from its first one, and none below its
least place. Rounding to it is a function of the number alone: it keeps the order, it has no
direction, and it leaves representable numbers alone. Fitting a decimal rounds its value in this
sense, and fails exactly where the rounded value reaches the limit. Two numbers between the same
neighbouring halves of a place that is given up are rounded alike, so digits far behind do not
matter except for their sign.
-/

namespace Passbook

namespace Decimal

variable {e f : Int} {p q : ℚ} {j : ℤ}

/-- The whole multiple of `10 ^ e` nearest to `q`, halves to even. -/
def atPlace (e : Int) (q : ℚ) : ℚ := Rounding.halfEven.nearest (q / 10 ^ e) * 10 ^ e

/-- The last place that the context keeps of a number. -/
def keptPlace (q : ℚ) : Int := max (Int.log 10 |q| - precision + 1) leastExponent

/-- The number of the context nearest to `q`, halves to even. -/
def rounded (q : ℚ) : ℚ := atPlace (keptPlace q) q

/-- A whole multiple of a place is left alone at that place. -/
theorem atPlace_of_mem_grid (h : q ∈ grid e) : atPlace e q = q := by
  obtain ⟨n, rfl⟩ := mem_grid_iff.mp h
  have hp : (10 : ℚ) ^ e ≠ 0 := by positivity
  rw [atPlace, mul_div_cancel_right₀ _ hp, Rounding.nearest_intCast]

theorem atPlace_neg (e : Int) (q : ℚ) : atPlace e (-q) = -atPlace e q := by
  rw [atPlace, neg_div, Rounding.nearest_neg, Int.cast_neg, neg_mul, atPlace]

/-- Rounding at a place keeps the order. -/
theorem atPlace_mono (e : Int) (h : p ≤ q) : atPlace e p ≤ atPlace e q := by
  have hnearest : Rounding.halfEven.nearest (p / 10 ^ e) ≤ Rounding.halfEven.nearest (q / 10 ^ e) :=
    Rounding.nearest_mono _ (by gcongr)
  rw [atPlace, atPlace]
  gcongr

@[simp] theorem keptPlace_neg (q : ℚ) : keptPlace (-q) = keptPlace q := by
  rw [keptPlace, abs_neg, keptPlace]

@[simp] theorem keptPlace_abs (q : ℚ) : keptPlace |q| = keptPlace q := by
  rw [keptPlace, abs_abs, keptPlace]

/-- No finer place is kept of a number of larger size. -/
theorem keptPlace_le_of_abs_le (hp : p ≠ 0) (h : |p| ≤ |q|) : keptPlace p ≤ keptPlace q := by
  have hlog : Int.log 10 |p| ≤ Int.log 10 |q| := Int.log_mono_right (abs_pos.mpr hp) h
  unfold keptPlace
  omega

theorem ten_pow_log_le (h : q ≠ 0) : (10 : ℚ) ^ Int.log 10 |q| ≤ |q| := by
  exact_mod_cast Int.zpow_log_le_self (b := 10) (by norm_num) (abs_pos.mpr h)

/-- The first digit stands below a place exactly if the number is below its power of ten. -/
theorem log_lt_iff (h : q ≠ 0) {m : Int} : Int.log 10 |q| < m ↔ |q| < (10 : ℚ) ^ m := by
  have hiff := Int.lt_zpow_iff_log_lt (b := 10) (by norm_num) (x := m) (abs_pos.mpr h)
  exact_mod_cast hiff.symm

/-- Between two numbers of which different places are kept stands a power of ten that both
places divide. -/
theorem exists_ten_pow_between (hp : p ≠ 0) (hq : q ≠ 0) (h : keptPlace p < keptPlace q) :
    ∃ k, keptPlace q ≤ k ∧ |p| < 10 ^ k ∧ (10 : ℚ) ^ k ≤ |q| := by
  refine ⟨Int.log 10 |q|, ?_, ?_, ten_pow_log_le hq⟩
  · unfold keptPlace precision at *
    omega
  · rw [← log_lt_iff hp]
    unfold keptPlace at h
    omega

@[simp] theorem rounded_zero : rounded 0 = 0 := atPlace_of_mem_grid (zero_mem _)

theorem rounded_neg (q : ℚ) : rounded (-q) = -rounded q := by
  rw [rounded, keptPlace_neg, atPlace_neg, rounded]

/-- Rounding keeps the order of numbers above zero. Where less is kept of the larger one, the
power of ten between them is not rounded on either side. -/
theorem rounded_mono_of_pos (hp : 0 < p) (h : p ≤ q) : rounded p ≤ rounded q := by
  have hq : 0 < q := hp.trans_le h
  have habs : |p| ≤ |q| := by rwa [abs_of_pos hp, abs_of_pos hq]
  rcases (keptPlace_le_of_abs_le hp.ne' habs).eq_or_lt with hsame | hless
  · rw [rounded, rounded, hsame]
    exact atPlace_mono _ h
  · obtain ⟨k, hk, hpk, hkq⟩ := exists_ten_pow_between hp.ne' hq.ne' hless
    rw [abs_of_pos hp] at hpk
    rw [abs_of_pos hq] at hkq
    calc rounded p ≤ atPlace (keptPlace p) (10 ^ k) := atPlace_mono _ hpk.le
      _ = 10 ^ k := atPlace_of_mem_grid (ten_pow_mem_grid (hless.le.trans hk))
      _ = atPlace (keptPlace q) (10 ^ k) := (atPlace_of_mem_grid (ten_pow_mem_grid hk)).symm
      _ ≤ rounded q := atPlace_mono _ hkq

theorem rounded_nonneg (h : 0 ≤ q) : 0 ≤ rounded q := by
  have hzero := atPlace_mono (keptPlace q) h
  rwa [atPlace_of_mem_grid (zero_mem _)] at hzero

/-- The size of a rounded number is its size, rounded. -/
theorem abs_rounded (q : ℚ) : |rounded q| = rounded |q| := by
  rcases le_total 0 q with hq | hq
  · rw [abs_of_nonneg hq, abs_of_nonneg (rounded_nonneg hq)]
  · have hneg := rounded_nonneg (neg_nonneg.mpr hq)
    rw [abs_of_nonpos hq, rounded_neg, abs_of_nonpos (by rwa [rounded_neg, neg_nonneg] at hneg)]

/-- Rounding keeps the order. -/
theorem rounded_mono (h : p ≤ q) : rounded p ≤ rounded q := by
  rcases lt_or_ge 0 p with hp | hp
  · exact rounded_mono_of_pos hp h
  · have hp' : rounded p ≤ 0 := by
      have hneg := rounded_nonneg (neg_nonneg.mpr hp)
      rw [rounded_neg] at hneg
      linarith
    rcases lt_or_ge q 0 with hq | hq
    · have hneg := rounded_mono_of_pos (neg_pos.mpr hq) (neg_le_neg h)
      rw [rounded_neg, rounded_neg] at hneg
      linarith
    · exact hp'.trans (rounded_nonneg hq)

/-- Rounding to the context moves a number by at most half a unit of the last place that is
kept. -/
theorem abs_rounded_sub_le (q : ℚ) : |rounded q - q| ≤ 10 ^ keptPlace q / 2 :=
  Rounding.abs_nearest_mul_sub_le _ q (by positivity)

/-- A rounded number is a whole multiple of the place that is kept. -/
theorem rounded_mem_grid (q : ℚ) : rounded q ∈ grid (keptPlace q) := int_mul_mem_grid _ _

/-- Of a number of few units of a place, that place is kept. -/
theorem keptPlace_le_of_few (hq : q ≠ 0) (he : leastExponent ≤ e)
    (h : |q| < 10 ^ (e + precision)) : keptPlace q ≤ e := by
  rw [← log_lt_iff hq] at h
  unfold keptPlace
  omega

/-- Of a representable number everything is kept. -/
theorem rounded_of_representable (h : Representable q) : rounded q = q := by
  rcases eq_or_ne q 0 with rfl | hq
  · exact rounded_zero
  · obtain ⟨e, he, hmem, hlt⟩ := h
    exact atPlace_of_mem_grid (grid_anti (keptPlace_le_of_few hq he hlt) hmem)

/-- A number from a representable one up is not rounded below that one. -/
theorem Representable.le_rounded (hp : Representable p) (h : p ≤ q) : p ≤ rounded q := by
  have hmono := rounded_mono h
  rwa [rounded_of_representable hp] at hmono

/-- A number up to a representable one is not rounded above that one. -/
theorem Representable.rounded_le (hq : Representable q) (h : p ≤ q) : rounded p ≤ q := by
  have hmono := rounded_mono h
  rwa [rounded_of_representable hq] at hmono

/-- A number has few units of the last place that is kept of it. -/
theorem abs_lt_keptPlace (q : ℚ) : |q| < 10 ^ (keptPlace q + precision) := by
  rcases eq_or_ne q 0 with rfl | hq
  · rw [abs_zero]
    positivity
  · rw [← log_lt_iff hq]
    unfold keptPlace precision
    omega

/-- A rounded number is representable. Where a carry leaves it one digit too many, it is a power of
ten. -/
theorem representable_rounded (q : ℚ) : Representable (rounded q) := by
  refine representable_of_mem_grid_le (le_max_right _ _) (rounded_mem_grid q) ?_
  rw [abs_rounded]
  have hleast : leastExponent ≤ keptPlace q := le_max_right _ _
  have hpower : Representable ((10 : ℚ) ^ (keptPlace q + precision)) :=
    representable_ten_pow (by unfold precision; omega)
  exact hpower.rounded_le (abs_lt_keptPlace q).le

theorem Representable.mem_grid (h : Representable q) : q ∈ grid (keptPlace q) := by
  have hmem := rounded_mem_grid q
  rwa [rounded_of_representable h] at hmem

/-- Between a representable number from zero up and the next one there is one unit of a place that
all larger ones are whole multiples of. -/
theorem Representable.exists_next (hp : Representable p) (h0 : 0 ≤ p) :
    ∃ e, Representable (p + 10 ^ e) ∧ ∀ q, Representable q → p ≤ q → q ∈ grid e := by
  rcases h0.eq_or_lt with rfl | hpos
  · refine ⟨leastExponent, ?_, ?_⟩
    · rw [zero_add]
      exact representable_ten_pow le_rfl
    · rintro q ⟨e, he, hmem, -⟩ -
      exact grid_anti he hmem
  · refine ⟨keptPlace p, ?_, ?_⟩
    · have hleast : leastExponent ≤ keptPlace p := le_max_right _ _
      have hpower : (10 : ℚ) ^ (keptPlace p + precision) ∈ grid (keptPlace p) :=
        ten_pow_mem_grid (by unfold precision; omega)
      have hbelow := abs_lt_keptPlace p
      rw [abs_of_pos hpos] at hbelow
      have hunit := ten_pow_le_of_mem_grid (sub_mem hpower hp.mem_grid) (sub_pos.mpr hbelow)
      refine representable_of_mem_grid_le hleast
        (add_mem hp.mem_grid (ten_pow_mem_grid le_rfl)) ?_
      rw [abs_of_pos (by positivity)]
      linarith
    · intro q hq hle
      have hplace : keptPlace p ≤ keptPlace q := by
        refine keptPlace_le_of_abs_le hpos.ne' ?_
        rwa [abs_of_pos hpos, abs_of_pos (hpos.trans_le hle)]
      exact grid_anti hplace hq.mem_grid

/-- The number is strictly between two neighbouring halves of the place `f + 1`. -/
structure BetweenHalves (f : Int) (j : ℤ) (q : ℚ) : Prop where
  low : j * (5 * 10 ^ f) < q
  high : q < (j + 1) * (5 * 10 ^ f)

namespace BetweenHalves

/-- The opposite of a number lies between the opposite halves. -/
theorem neg (h : BetweenHalves f j q) : BetweenHalves f (-j - 1) (-q) where
  low := by
    have hhigh := h.high
    push_cast
    linarith
  high := by
    have hlow := h.low
    push_cast
    linarith

/-- The halves of a place are among those of every finer place. -/
theorem coarser (h : BetweenHalves f j q) (k : ℕ) : BetweenHalves (f + k) (j / 10 ^ k) q where
  low := by
    have hdiv : j / 10 ^ k * 10 ^ k ≤ j := Int.ediv_mul_le j (by positivity)
    have hdiv' : ((j / 10 ^ k : ℤ) : ℚ) * 10 ^ k ≤ j := by exact_mod_cast hdiv
    refine lt_of_le_of_lt ?_ h.low
    rw [zpow_add₀ (by norm_num), zpow_natCast]
    calc ((j / 10 ^ k : ℤ) : ℚ) * (5 * (10 ^ f * 10 ^ k))
        = ((j / 10 ^ k : ℤ) * 10 ^ k) * (5 * 10 ^ f) := by ring
      _ ≤ j * (5 * 10 ^ f) := by gcongr
  high := by
    have hdiv : j + 1 ≤ (j / 10 ^ k + 1) * 10 ^ k :=
      Int.lt_ediv_add_one_mul_self j (by positivity)
    have hdiv' : (j : ℚ) + 1 ≤ ((j / 10 ^ k : ℤ) + 1) * 10 ^ k := by exact_mod_cast hdiv
    refine lt_of_lt_of_le h.high ?_
    rw [zpow_add₀ (by norm_num), zpow_natCast]
    calc ((j : ℚ) + 1) * (5 * 10 ^ f)
        ≤ (((j / 10 ^ k : ℤ) + 1) * 10 ^ k) * (5 * 10 ^ f) := by gcongr
      _ = ((j / 10 ^ k : ℤ) + 1) * (5 * (10 ^ f * 10 ^ k)) := by ring

/-- Between two halves there is one nearest multiple. -/
theorem atPlace_eq (h : BetweenHalves f j q) :
    atPlace (f + 1) q = ((j + 1) / 2 : ℤ) * 10 ^ (f + 1) := by
  have hp : (0 : ℚ) < 10 ^ (f + 1) := by positivity
  have hunit : (10 : ℚ) ^ (f + 1) = 2 * (5 * 10 ^ f) := by
    rw [zpow_add_one₀ (by norm_num)]
    ring
  have hlow := h.low
  have hhigh := h.high
  rw [atPlace, Rounding.nearest_eq_of_between (j := j)]
  · rw [lt_div_iff₀ hp, hunit]
    linarith
  · rw [div_lt_iff₀ hp, hunit]
    linarith

/-- Numbers between the same two halves of a place that is given up are rounded alike at every
place that is kept. -/
theorem atPlace_congr (hp : BetweenHalves f j p) (hq : BetweenHalves f j q) (he : f + 1 ≤ e) :
    atPlace e p = atPlace e q := by
  have hcoarse : f + (e - (f + 1)).toNat + 1 = e := by omega
  rw [← hcoarse, (hp.coarser _).atPlace_eq, (hq.coarser _).atPlace_eq]

/-- No whole multiple of a place lies strictly between two neighbouring halves of it. -/
theorem not_mem_grid (h : BetweenHalves f j q) : q ∉ grid (f + 1) := by
  intro hmem
  have hunit : (0 : ℚ) < 5 * 10 ^ f := by positivity
  obtain ⟨n, rfl⟩ := mem_grid_iff.mp hmem
  have hn : (n : ℚ) * 10 ^ (f + 1) = (2 * n : ℤ) * (5 * 10 ^ f) := by
    rw [zpow_add_one₀ (by norm_num)]
    push_cast
    ring
  have hlow := h.low
  have hhigh := h.high
  rw [hn] at hlow hhigh
  have hlow' : j < 2 * n := by exact_mod_cast lt_of_mul_lt_mul_right hlow hunit.le
  have hhigh' : 2 * n < j + 1 := by exact_mod_cast lt_of_mul_lt_mul_right hhigh hunit.le
  omega

/-- A number between two halves is above zero exactly if the lower half is zero or above. -/
theorem pos_iff (h : BetweenHalves f j q) : 0 < q ↔ 0 ≤ j := by
  have hunit : (0 : ℚ) < 5 * 10 ^ f := by positivity
  have hlow := h.low
  have hhigh := h.high
  constructor
  · intro hq
    have hj : (0 : ℚ) * (5 * 10 ^ f) < (j + 1) * (5 * 10 ^ f) := by
      rw [zero_mul]
      exact hq.trans hhigh
    have hj' : 0 < j + 1 := by exact_mod_cast lt_of_mul_lt_mul_right hj hunit.le
    omega
  · intro hj
    have hj' : (0 : ℚ) ≤ j := by exact_mod_cast hj
    exact (by positivity : (0 : ℚ) ≤ j * (5 * 10 ^ f)).trans_lt hlow

/-- Of numbers above zero between the same two halves of a place that is given up, the same place
is kept: no power of ten that it divides stands between them. -/
theorem keptPlace_le (hp : BetweenHalves f j p) (hq : BetweenHalves f j q) (hj : 0 ≤ j)
    (he : f + 1 ≤ keptPlace q) : keptPlace q ≤ keptPlace p := by
  by_contra hless
  have hp0 := hp.pos_iff.mpr hj
  have hq0 := hq.pos_iff.mpr hj
  obtain ⟨k, hk, hpk, hkq⟩ := exists_ten_pow_between hp0.ne' hq0.ne' (not_le.mp hless)
  rw [abs_of_pos hp0] at hpk
  rw [abs_of_pos hq0] at hkq
  have hbetween : BetweenHalves f j ((10 : ℚ) ^ k) := ⟨hp.low.trans hpk, hkq.trans_lt hq.high⟩
  exact hbetween.not_mem_grid (ten_pow_mem_grid (he.trans hk))

/-- Above zero, numbers between the same two halves of a place that both give up are rounded alike.
-/
theorem rounded_congr_of_nonneg (hp : BetweenHalves f j p) (hq : BetweenHalves f j q) (hj : 0 ≤ j)
    (hep : f + 1 ≤ keptPlace p) (heq : f + 1 ≤ keptPlace q) : rounded p = rounded q := by
  have hsame : keptPlace p = keptPlace q :=
    le_antisymm (hq.keptPlace_le hp hj hep) (hp.keptPlace_le hq hj heq)
  rw [rounded, rounded, hsame]
  exact hp.atPlace_congr hq heq

/-- Numbers between the same two halves of a place that both give up are rounded alike. -/
theorem rounded_congr (hp : BetweenHalves f j p) (hq : BetweenHalves f j q)
    (hep : f + 1 ≤ keptPlace p) (heq : f + 1 ≤ keptPlace q) : rounded p = rounded q := by
  rcases le_or_gt 0 j with hj | hj
  · exact hp.rounded_congr_of_nonneg hq hj hep heq
  · have hneg := hp.neg.rounded_congr_of_nonneg hq.neg (by omega)
      (by rwa [keptPlace_neg]) (by rwa [keptPlace_neg])
    rw [rounded_neg, rounded_neg] at hneg
    exact neg_inj.mp hneg

end BetweenHalves

end Decimal

namespace Scaled

open Decimal

variable {x y : Scaled}

/-- The size of the number after rounding to the context. -/
def roundedMagnitude (x : Scaled) : ℚ :=
  Rounding.halfEven.drop x.coefficient (x.fitExponent - x.exponent).toNat * 10 ^ x.fitExponent

theorem exponent_le_fitExponent (x : Scaled) : x.exponent ≤ x.fitExponent := le_max_left _ _

theorem drop_zero_left (mode : Rounding) (k : Nat) : mode.drop 0 k = 0 := by
  have hp : 0 < 10 ^ k := by positivity
  simp [Rounding.drop, Rounding.quotient, hp]

/-- A rounded number whose coefficient has one digit too many ends in a zero, which is given up. -/
def carried (s : Bool) (c : Nat) (e : Int) : Scaled :=
  if c = Nat.pow 10 precision then ⟨s, Nat.pow 10 (precision - 1), e + 1⟩ else ⟨s, c, e⟩

@[simp] theorem carried_negative (s : Bool) (c : Nat) (e : Int) : (carried s c e).negative = s := by
  unfold carried
  split <;> rfl

@[simp] theorem carried_magnitude (s : Bool) (c : Nat) (e : Int) :
    (carried s c e).magnitude = c * 10 ^ e := by
  unfold carried
  split <;> rename_i h
  · subst h
    simp only [magnitude, precision, Nat.pow_eq, zpow_add₀ (show (10 : ℚ) ≠ 0 by norm_num)]
    push_cast
    ring
  · rfl

/-- Fitting a nonzero number rounds it at its place in the context. -/
theorem fit_of_ne_zero (h : x.coefficient ≠ 0) :
    x.fit =
      (let y := carried x.negative
        (Rounding.halfEven.drop x.coefficient (x.fitExponent - x.exponent).toNat) x.fitExponent
      if maxExponent < y.adjusted then .error .overflow else .ok y) := by
  rw [fit, if_neg h]
  rfl

/-- A zero or a number with a first digit in the context is below its limit, and no other. -/
theorem magnitude_lt_limit_iff :
    x.magnitude < limit ↔ x.coefficient = 0 ∨ x.adjusted ≤ maxExponent := by
  by_cases hc : x.coefficient = 0
  · simp [hc, magnitude_eq_zero_iff.mpr hc, limit_pos]
  · rw [or_iff_right hc, adjusted_le_iff hc, limit]

/-- A fitted number keeps its sign, its size is rounded, and it stays below the limit. -/
theorem fit_eq_ok (h : x.fit = .ok y) :
    y.negative = x.negative ∧ y.magnitude = x.roundedMagnitude ∧ y.magnitude < limit := by
  by_cases hc : x.coefficient = 0
  · rw [fit, if_pos hc] at h
    obtain rfl := Except.ok.inj h
    refine ⟨rfl, ?_, magnitude_lt_limit_iff.mpr (.inl hc)⟩
    rw [roundedMagnitude, hc, drop_zero_left, Nat.cast_zero, zero_mul]
    exact magnitude_eq_zero_iff.mpr rfl
  · rw [fit_of_ne_zero hc] at h
    dsimp only at h
    split at h <;> rename_i ho
    · exact nomatch h
    · obtain rfl := Except.ok.inj h
      refine ⟨carried_negative _ _ _, carried_magnitude _ _ _, ?_⟩
      exact magnitude_lt_limit_iff.mpr (.inr (not_lt.mp ho))

/-- The place of the first digit is the whole logarithm of the size. -/
theorem adjusted_eq_log (h : x.coefficient ≠ 0) : x.adjusted = Int.log 10 |x.value| := by
  have hvalue : x.value ≠ 0 := by rwa [ne_eq, value_eq_zero_iff]
  refine le_antisymm ?_ ?_
  · rw [adjusted_le_iff h, ← abs_value, ← log_lt_iff hvalue]
    omega
  · have hlt : Int.log 10 |x.value| < x.adjusted + 1 := by
      rw [log_lt_iff hvalue, abs_value]
      exact x.magnitude_lt
    omega

/-- A fitted number keeps its own places or those that the context keeps. -/
theorem fitExponent_eq (h : x.coefficient ≠ 0) :
    x.fitExponent = max x.exponent (keptPlace x.value) := by
  rw [fitExponent, adjusted_eq_log h, keptPlace]

/-- The size after fitting is the rounded size. -/
theorem roundedMagnitude_eq_rounded (x : Scaled) : x.roundedMagnitude = rounded x.magnitude := by
  by_cases hc : x.coefficient = 0
  · rw [roundedMagnitude, hc, drop_zero_left, Nat.cast_zero, zero_mul, magnitude_eq_zero_iff.mpr hc,
      rounded_zero]
  · have hplace : x.roundedMagnitude = atPlace x.fitExponent x.magnitude := by
      have hunit : (10 : ℚ) ^ x.fitExponent =
          10 ^ (x.fitExponent - x.exponent).toNat * 10 ^ x.exponent := by
        have hle := x.exponent_le_fitExponent
        rw [← zpow_natCast, ← zpow_add₀ (by norm_num)]
        congr 1
        omega
      have hunits : (x.coefficient : ℚ) / 10 ^ (x.fitExponent - x.exponent).toNat =
          x.magnitude / 10 ^ x.fitExponent := by
        rw [hunit, magnitude, mul_div_mul_right _ _ (by positivity)]
      rw [roundedMagnitude, atPlace, ← hunits, ← Rounding.drop_eq_nearest, Int.cast_natCast]
    rw [hplace, rounded, ← abs_value, keptPlace_abs, abs_value, fitExponent_eq hc]
    rcases le_total x.exponent (keptPlace x.value) with hle | hge
    · rw [max_eq_right hle]
    · -- the number has no digit at a place that is given up
      have hmem : x.magnitude ∈ grid x.exponent := int_mul_mem_grid x.coefficient x.exponent
      rw [max_eq_left hge, atPlace_of_mem_grid hmem, atPlace_of_mem_grid (grid_anti hge hmem)]

/-- A number that reaches the least place is not rounded to zero. -/
theorem lt_leastExponent_of_rounded_eq_zero (hc : x.coefficient ≠ 0)
    (h : rounded x.magnitude = 0) : x.adjusted < leastExponent := by
  have hvalue : x.value ≠ 0 := by rwa [ne_eq, value_eq_zero_iff]
  by_contra hge
  have hle : (10 : ℚ) ^ leastExponent ≤ x.magnitude :=
    (zpow_le_zpow_right₀ (by norm_num) (not_lt.mp hge)).trans (ten_pow_adjusted_le hc)
  have hkept := (representable_ten_pow le_rfl).le_rounded hle
  rw [h] at hkept
  exact absurd hkept (not_le.mpr (by positivity))

/-- A carry moves the last place by at most one. -/
theorem carried_exponent_le (s : Bool) (c : Nat) (e : Int) : (carried s c e).exponent ≤ e + 1 := by
  unfold carried
  split
  · exact le_rfl
  · exact Int.le_add_one le_rfl

/-- The first digit of a carried number is in the context exactly if its size is below the
limit. -/
theorem carried_adjusted_le_iff (hc : x.coefficient ≠ 0) :
    (carried x.negative
        (Rounding.halfEven.drop x.coefficient (x.fitExponent - x.exponent).toNat)
        x.fitExponent).adjusted ≤ maxExponent ↔ rounded x.magnitude < limit := by
  set y := carried x.negative
    (Rounding.halfEven.drop x.coefficient (x.fitExponent - x.exponent).toNat) x.fitExponent with hy
  have hmagnitude : y.magnitude = rounded x.magnitude := by
    rw [← roundedMagnitude_eq_rounded]
    exact carried_magnitude _ _ _
  rw [← hmagnitude, magnitude_lt_limit_iff]
  refine ⟨.inr, ?_⟩
  rintro (hzero | hle)
  · -- only what lies below the least place is rounded to zero, and then to that place
    have hsmall : x.adjusted < leastExponent := by
      refine lt_leastExponent_of_rounded_eq_zero hc ?_
      rw [← hmagnitude, magnitude_eq_zero_iff.mpr hzero]
    have hdigits := digitCount_pos x.coefficient
    have hplace : x.fitExponent = leastExponent := by
      unfold fitExponent adjusted precision at *
      omega
    have hexponent : y.exponent ≤ leastExponent + 1 := by
      rw [hy, hplace]
      exact carried_exponent_le _ _ _
    have hone : digitCount 0 = 1 := rfl
    rw [adjusted, hzero, hone]
    unfold leastExponent at hexponent
    unfold maxExponent
    omega
  · exact hle

/-- A fitted number is the rounded value. -/
theorem value_of_fit (h : x.fit = .ok y) : y.value = rounded x.value := by
  obtain ⟨hs, hm, -⟩ := fit_eq_ok h
  rw [value, value, hs, hm, roundedMagnitude_eq_rounded]
  split
  · rw [rounded_neg]
  · rfl

theorem abs_rounded_value (x : Scaled) : |rounded x.value| = rounded x.magnitude := by
  rw [abs_rounded, abs_value]

/-- A number whose rounded value is below the limit is fitted. -/
theorem fit_of_lt (h : |rounded x.value| < limit) :
    ∃ y, x.fit = .ok y ∧ y.value = rounded x.value := by
  by_cases hc : x.coefficient = 0
  · obtain ⟨y, hy⟩ : ∃ y, x.fit = .ok y := ⟨_, by rw [fit, if_pos hc]⟩
    exact ⟨y, hy, value_of_fit hy⟩
  · rw [abs_rounded_value, ← carried_adjusted_le_iff hc] at h
    have hfit := fit_of_ne_zero hc
    rw [if_neg (not_lt.mpr h)] at hfit
    exact ⟨_, hfit, value_of_fit hfit⟩

/-- A number whose rounded value reaches the limit is not. -/
theorem fit_of_limit_le (h : limit ≤ |rounded x.value|) : x.fit = .error .overflow := by
  have hc : x.coefficient ≠ 0 := by
    intro hc
    rw [value_eq_zero_iff.mpr hc, rounded_zero, abs_zero] at h
    exact absurd limit_pos (not_lt.mpr h)
  rw [abs_rounded_value, ← not_lt, ← carried_adjusted_le_iff hc, not_le] at h
  rw [fit_of_ne_zero hc]
  exact if_pos h

end Scaled

end Passbook
