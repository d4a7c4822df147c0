import Passbook.Proofs.Decimal.Sum

/-!
# Exact totals in another order

An exact sum is not only the same number in every order. Its sign is that of the number, and its
last place is the finest among those of the operands, unless the context does not reach as far: then
it is the last place that the context keeps of the number. So a running total of numbers from zero
up that no addition rounds is one and the same decimal in every order.
-/

namespace Passbook

namespace Decimal

variable {p q : ℚ}

/-- The last place that the context keeps of a number, which is the least one for zero. -/
def lastPlace (q : ℚ) : Int := if q = 0 then leastExponent else keptPlace q

/-- No last place is beyond the least one of the context. -/
theorem leastExponent_le_lastPlace (q : ℚ) : leastExponent ≤ lastPlace q := by
  unfold lastPlace
  split
  · exact le_rfl
  · exact le_max_right _ _

/-- From zero up, no finer last place is kept of a larger number. -/
theorem lastPlace_mono (hp : 0 ≤ p) (h : p ≤ q) : lastPlace p ≤ lastPlace q := by
  rcases hp.eq_or_lt with rfl | hpos
  · rw [lastPlace, if_pos rfl]
    exact leastExponent_le_lastPlace q
  · have hq : 0 < q := hpos.trans_le h
    rw [lastPlace, lastPlace, if_neg hpos.ne', if_neg hq.ne']
    refine keptPlace_le_of_abs_le hpos.ne' ?_
    rwa [abs_of_pos hpos, abs_of_pos hq]

end Decimal

namespace Scaled

open Decimal

variable {x y z small big : Scaled}

/-- A number that is fitted as it is keeps its last place as far as the context reaches. -/
theorem exponent_of_fit (hr : Representable x.value) (he : x.value = 0 → x.exponent ≤ maxExponent)
    (h : x.fit = .ok y) : y.exponent = max x.exponent (lastPlace x.value) := by
  by_cases hc : x.coefficient = 0
  · rw [fit, if_pos hc] at h
    obtain rfl := Except.ok.inj h
    have hzero := value_eq_zero_iff.mpr hc
    rw [lastPlace, if_pos hzero, min_eq_left (he hzero), max_comm]
  · have hfew : Rounding.halfEven.drop x.coefficient (x.fitExponent - x.exponent).toNat <
        Nat.pow 10 precision := by
      have hplace : keptPlace x.value ≤ x.fitExponent := by
        rw [fitExponent_eq hc]
        exact le_max_right _ _
      have hbelow : x.roundedMagnitude < 10 ^ (precision : Int) * 10 ^ x.fitExponent := by
        rw [roundedMagnitude_eq_rounded, ← abs_value, ← abs_rounded, rounded_of_representable hr,
          ← zpow_add₀ (by norm_num), add_comm]
        exact (abs_lt_keptPlace x.value).trans_le (zpow_le_zpow_right₀ (by norm_num) (by omega))
      rw [roundedMagnitude, mul_lt_mul_iff_left₀ (by positivity), zpow_natCast] at hbelow
      exact_mod_cast hbelow
    rw [fit_of_ne_zero hc] at h
    dsimp only at h
    split at h
    · cases h
    · obtain rfl := Except.ok.inj h
      rw [carried, if_neg hfew.ne, lastPlace,
        if_neg (value_eq_zero_iff.not.mpr hc), fitExponent_eq hc]

/-- In a representable sum only zero is replaced by something nearer to the other number, which leaves
both behind all digits that are kept. -/
theorem beside_of_representable (hr : Representable (big.value + small.value)) :
    (small.beside big).value = small.value ∧
      (small.beside big = small ∨ small.exponent < lastPlace (big.value + small.value) ∧
        (small.beside big).exponent < lastPlace (big.value + small.value)) := by
  unfold beside
  dsimp only
  split
  next hcond =>
    obtain ⟨hbig, hbelow⟩ := hcond
    by_cases hc : small.coefficient = 0
    · have hzero := value_eq_zero_iff.mpr hc
      have hone : digitCount 0 = 1 := rfl
      refine ⟨?_, .inr ?_⟩
      · rw [hzero, value_eq_zero_iff]
        simp [hc]
      · rw [hzero, add_zero, lastPlace, if_neg (value_eq_zero_iff.not.mpr hbig), keptPlace,
          ← adjusted_eq_log hbig]
        unfold adjusted at *
        rw [hc, hone] at hbelow
        unfold precision at *
        refine ⟨by omega, ?_⟩
        change big.exponent - 1 + min 0 ((digitCount big.coefficient : Int) - (28 + 1)) < _
        omega
    · -- a sum of which digits are given up is not representable
      have hfar := farBehind hbig hc hbelow
      have hpos : 0 < |small.value| := abs_pos.mpr (value_eq_zero_iff.not.mpr hc)
      have hkept := le_keptPlace_add hfar.lead hfar.deep hfar.behind
      have hmem := sub_mem (grid_anti hkept hr.mem_grid) hfar.mem
      rw [add_sub_cancel_left, ← abs_mem_iff] at hmem
      have hunit := ten_pow_le_of_mem_grid hmem hpos
      have hless : (10 : ℚ) ^ (big.exponent - 1 +
          min 0 ((digitCount big.coefficient : Int) - (precision + 1))) <
            10 ^ (big.exponent - 1 +
              min 0 ((digitCount big.coefficient : Int) - (precision + 1)) + 1) :=
        zpow_lt_zpow_right₀ (by norm_num) (by omega)
      exact absurd (hunit.trans hfar.behind) (not_le.mpr hless)
  next => exact ⟨rfl, .inl rfl⟩

/-- What an exact addition fits is the sum, at the finer of the two last places as far as the context
reaches. -/
theorem addend_of_representable (hr : Representable (x.value + y.value)) :
    (addend x y).value = x.value + y.value ∧
      max (addend x y).exponent (lastPlace (x.value + y.value)) =
        max (min x.exponent y.exponent) (lastPlace (x.value + y.value)) := by
  unfold addend
  split
  · obtain ⟨hvalue, hplace⟩ := beside_of_representable hr
    have hexponent : (exactSum x (y.beside x)).exponent =
        min x.exponent (y.beside x).exponent := rfl
    refine ⟨by rw [value_exactSum, hvalue], ?_⟩
    rw [hexponent]
    rcases hplace with hsame | ⟨hbehind, hbehind'⟩
    · rw [hsame]
    · omega
  · rw [add_comm] at hr ⊢
    obtain ⟨hvalue, hplace⟩ := beside_of_representable hr
    have hexponent : (exactSum (x.beside y) y).exponent =
        min (x.beside y).exponent y.exponent := rfl
    refine ⟨by rw [value_exactSum, hvalue, add_comm], ?_⟩
    rw [hexponent]
    rcases hplace with hsame | ⟨hbehind, hbehind'⟩
    · rw [hsame]
    · omega

/-- A negligible number that is replaced keeps its sign. -/
theorem beside_negative (small big : Scaled) : (small.beside big).negative = small.negative := by
  unfold beside
  dsimp only
  split <;> rfl

/-- A sum from zero up has no sign where the first number has none. -/
theorem exactSum_negative (hx : x.negative = false) (h0 : 0 ≤ (exactSum x y).value) :
    (exactSum x y).negative = false := by
  simp only [exactSum]
  split
  · rw [hx, Bool.false_and]
  next hnonzero =>
    refine decide_eq_false fun hlt => ?_
    have hvalue := value_natAbs (x.negative && y.negative)
      (x.units (min x.exponent y.exponent) + y.units (min x.exponent y.exponent))
      (min x.exponent y.exponent)
    have hneg : (exactSum x y).value < 0 := by
      rw [exactSum, hvalue]
      exact mul_neg_of_neg_of_pos (by exact_mod_cast hlt) (by positivity)
    exact absurd h0 (not_le.mpr hneg)

/-- What an addition fits has no sign if it is from zero up and the first number has none. -/
theorem addend_negative (hx : x.negative = false) (h0 : 0 ≤ (addend x y).value) :
    (addend x y).negative = false := by
  revert h0
  unfold addend
  split
  · exact exactSum_negative hx
  · exact exactSum_negative ((beside_negative x y).trans hx)

/-- An exact sum from zero up has no sign where the first number has none, and the finer of the two
last places as far as the context reaches. -/
theorem add_eq_ok (hx : x.negative = false)
    (he : x.value + y.value = 0 → x.exponent ≤ maxExponent) (h0 : 0 ≤ x.value + y.value)
    (hr : Representable (x.value + y.value)) (h : x.add y = .ok z) :
    z.negative = false ∧ z.value = x.value + y.value ∧
      z.exponent = max (min x.exponent y.exponent) (lastPlace (x.value + y.value)) := by
  obtain ⟨hvalue, hplace⟩ := addend_of_representable hr
  rw [add_eq_fit] at h
  rw [← hvalue] at hr h0
  refine ⟨(fit_eq_ok h).1.trans (addend_negative hx h0), ?_, ?_⟩
  · rw [value_of_fit h, rounded_of_representable hr, hvalue]
  · refine (exponent_of_fit hr (fun hzero => ?_) h).trans (by rw [← hplace, hvalue])
    rw [hvalue] at hzero
    have hreach := he hzero
    rw [lastPlace, if_pos hzero] at hplace
    unfold leastExponent at hplace
    unfold maxExponent at hreach ⊢
    omega

end Scaled

namespace Decimal

open Scaled

variable {x z : Scaled} {xs ys : List Scaled} {total : Decimal} {m : Int}

/-- An exact running total from a number without a sign has none, and of all last places the finest
one, as far as the context reaches. -/
theorem sumFrom_eq_ok (hx : x.negative = false) (hx0 : 0 ≤ x.value) (hm : m ≤ 0)
    (hplace : x.exponent = max m (lastPlace x.value)) (hxs : ∀ y ∈ xs, 0 ≤ y.value)
    (hr : RunningTotals Representable x.value (xs.map Scaled.value))
    (h : sumFrom (finite x) (xs.map finite) = .ok total) :
    ∃ z, total = finite z ∧ z.negative = false ∧ z.value = x.value + (xs.map Scaled.value).sum ∧
      z.exponent = max ((xs.map Scaled.exponent).foldl min m) (lastPlace z.value) := by
  induction xs generalizing x m with
  | nil =>
    obtain rfl := Except.ok.inj h
    exact ⟨x, rfl, hx, by simp, hplace⟩
  | cons y rest ih =>
    obtain ⟨hy0, hrest⟩ := List.forall_mem_cons.mp hxs
    rw [List.map_cons, sumFrom_cons] at h
    obtain ⟨next, hnext, h⟩ := bind_eq_ok_iff.mp h
    obtain ⟨z, hz, rfl⟩ := map_eq_ok_iff.mp hnext
    have hsum0 : 0 ≤ x.value + y.value := add_nonneg hx0 hy0
    have hreach : x.value + y.value = 0 → x.exponent ≤ maxExponent := by
      intro hzero
      have hxzero : x.value = 0 := le_antisymm (by linarith) hx0
      rw [hplace, hxzero, lastPlace, if_pos rfl]
      unfold leastExponent maxExponent
      omega
    obtain ⟨hneg, hvalue, hexponent⟩ := add_eq_ok hx hreach hsum0 hr.tail.head hz
    -- the totals rise, so the last place of the next one absorbs that of this one
    have hgrow : lastPlace x.value ≤ lastPlace (x.value + y.value) :=
      lastPlace_mono hx0 (le_add_of_nonneg_right hy0)
    simp only [List.map_cons, List.foldl_cons, List.sum_cons]
    rw [← add_assoc, ← hvalue]
    refine ih hneg (by rwa [hvalue]) ((min_le_left _ _).trans hm) ?_ hrest ?_ h
    · rw [hexponent, hplace, hvalue]
      omega
    · rw [hvalue]
      exact hr.tail

/-- Finite decimals are given by their signs, digits and powers of ten. -/
theorem exists_map_finite {xs : List Decimal} (h : ∀ x ∈ xs, x.isFinite = true) :
    ∃ us : List Scaled, us.map finite = xs := by
  have hmem : xs ∈ Set.range (List.map finite) := by
    rw [Set.range_list_map]
    intro x hx
    obtain ⟨u, rfl⟩ := isFinite_iff.mp (h x hx)
    exact ⟨u, rfl⟩
  exact hmem

/-- An exact sum of numbers from zero up has no sign, and of all last places the finest one up to
that of whole numbers, as far as the context reaches. -/
theorem sum_finite_eq_ok (hxs : ∀ y ∈ xs, 0 ≤ y.value)
    (hr : RunningTotals Representable 0 (xs.map Scaled.value))
    (h : Decimal.sum (xs.map finite) = .ok total) :
    ∃ z, total = finite z ∧ z.negative = false ∧ z.value = (xs.map Scaled.value).sum ∧
      z.exponent = max ((xs.map Scaled.exponent).foldl min 0) (lastPlace z.value) := by
  have hzero : (Scaled.ofInt 0).value = 0 := by simp
  have hplace : (Scaled.ofInt 0).exponent = max 0 (lastPlace (Scaled.ofInt 0).value) := by
    rw [hzero, lastPlace, if_pos rfl]
    rfl
  obtain ⟨z, hz, hneg, hvalue, hexponent⟩ :=
    sumFrom_eq_ok rfl hzero.ge le_rfl hplace hxs (by rwa [hzero]) h
  rw [hzero, zero_add] at hvalue
  exact ⟨z, hz, hneg, hvalue, hexponent⟩

/-- Numbers from zero up that add up exactly in one order and in another have one sum. -/
theorem sum_perm {xs ys : List Decimal} (hperm : ys.Perm xs)
    (hxs : ∀ x ∈ xs, x.isFinite = true ∧ 0 ≤ x.value)
    (hr : RunningTotals Representable 0 (xs.map Decimal.value))
    (hr' : RunningTotals Representable 0 (ys.map Decimal.value))
    (h : Decimal.sum xs = .ok total) : Decimal.sum ys = .ok total := by
  have hys : ∀ y ∈ ys, y.isFinite = true ∧ 0 ≤ y.value := fun y hy => hxs y (hperm.mem_iff.mp hy)
  obtain ⟨total', h'⟩ : ∃ total', Decimal.sum ys = .ok total' := by
    have hvalue := sum_hasValue (forall₂_hasValue_map fun x hx => hasValue_value (hxs x hx).1) hr h
    have hlimit := abs_lt_limit_of_sumFrom hasValue_zero (by rw [abs_zero]; exact limit_pos) h hvalue
    rw [← (hperm.map Decimal.value).sum_eq] at hlimit
    obtain ⟨total', h', -⟩ := sum_of_fits
      (forall₂_hasValue_map fun y hy => hasValue_value (hys y hy).1)
      (hr'.fits le_rfl (List.forall_mem_map.mpr fun y hy => (hys y hy).2)
        (by rw [zero_add]; exact (le_abs_self _).trans_lt hlimit))
    exact ⟨total', h'⟩
  obtain ⟨us, rfl⟩ := exists_map_finite fun x hx => (hxs x hx).1
  obtain ⟨vs, rfl⟩ := exists_map_finite fun y hy => (hys y hy).1
  have hunits : vs.Perm us := (List.map_perm_map_iff fun _ _ => finite.inj).mp hperm
  rw [List.map_map] at hr hr'
  obtain ⟨z, rfl, hneg, hvalue, hexponent⟩ :=
    sum_finite_eq_ok (fun u hu => (hxs _ (List.mem_map_of_mem hu)).2) hr h
  obtain ⟨z', rfl, hneg', hvalue', hexponent'⟩ :=
    sum_finite_eq_ok (fun v hv => (hys _ (List.mem_map_of_mem hv)).2) hr' h'
  have hsame : z'.value = z.value := by rw [hvalue, hvalue', (hunits.map _).sum_eq]
  have hplace : z'.exponent = z.exponent := by
    rw [hexponent, hexponent', hsame, (hunits.map _).foldl_eq]
  rw [h', Scaled.eq_of_value (hneg'.trans hneg.symm) hplace hsame]

end Decimal

end Passbook
