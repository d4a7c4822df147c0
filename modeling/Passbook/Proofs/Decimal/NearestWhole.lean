import Passbook.Proofs.Decimal.Value

/-!
# The whole number nearest to a fraction

Dividing by a rounding mode gives the whole number nearest to the quotient, and dropping digits
gives the one nearest to the shortened coefficient. The two modes differ only at halves. Whatever
becomes of the halves, rounding keeps the order of numbers, and it does not change between two
neighbouring halves.
-/

namespace Passbook.Rounding

variable {mode : Rounding} {q r : ℚ} {j : ℤ}

/-- Where the half above the whole number `n` goes: to the even neighbour or to the upper one. -/
def atHalf : Rounding → ℤ → ℤ
  | halfEven, n => n + n % 2
  | halfUp, n => n + 1

/-- The whole number nearest to `q`, by a mode at halves. -/
def nearest (mode : Rounding) (q : ℚ) : ℤ :=
  if 2 * Int.fract q < 1 then ⌊q⌋
  else if 1 < 2 * Int.fract q then ⌊q⌋ + 1
  else mode.atHalf ⌊q⌋

/-- A half is rounded to one of the two integers beside it. -/
theorem atHalf_eq_or (mode : Rounding) (n : ℤ) : mode.atHalf n = n ∨ mode.atHalf n = n + 1 := by
  cases mode with
  | halfEven =>
    rw [atHalf]
    omega
  | halfUp => exact .inr rfl

@[simp] theorem nearest_intCast (mode : Rounding) (n : ℤ) : mode.nearest n = n := by
  simp [nearest]

/-- The nearest whole number is at most one half away. -/
theorem abs_nearest_sub_le (mode : Rounding) (q : ℚ) : |(mode.nearest q : ℚ) - q| ≤ 1 / 2 := by
  have hq := Int.floor_add_fract q
  have h0 := Int.fract_nonneg q
  have h1 := Int.fract_lt_one q
  rw [abs_le, nearest]
  split
  · constructor <;> linarith
  · split
    · push_cast
      constructor <;> linarith
    · rcases mode.atHalf_eq_or ⌊q⌋ with h | h
      · rw [h]
        constructor <;> linarith
      · rw [h]
        push_cast
        constructor <;> linarith

/-- The nearest whole multiple of a unit is at most half a unit away. -/
theorem abs_nearest_mul_sub_le (mode : Rounding) (q : ℚ) {u : ℚ} (hu : 0 < u) :
    |(mode.nearest (q / u) : ℚ) * u - q| ≤ u / 2 := by
  have hunit : (mode.nearest (q / u) : ℚ) * u - q = (mode.nearest (q / u) - q / u) * u := by
    field_simp
  rw [hunit, abs_mul, abs_of_pos hu]
  calc |(mode.nearest (q / u) : ℚ) - q / u| * u ≤ 1 / 2 * u := by
        gcongr
        exact mode.abs_nearest_sub_le _
    _ = u / 2 := by ring

/-- Rounding keeps the order: two numbers whose nearest whole numbers stand the other way round
would both be the half between them. -/
theorem nearest_mono (mode : Rounding) (h : q ≤ r) : mode.nearest q ≤ mode.nearest r := by
  by_contra hlt
  have hstep : (mode.nearest r : ℚ) + 1 ≤ mode.nearest q := by exact_mod_cast not_le.mp hlt
  have hq := abs_le.mp (mode.abs_nearest_sub_le q)
  have hr := abs_le.mp (mode.abs_nearest_sub_le r)
  obtain rfl : q = r := by linarith
  exact hlt le_rfl

/-- Between two neighbouring halves there is one nearest whole number. -/
theorem nearest_eq_of_between (hlow : (j : ℚ) / 2 < q) (hhigh : q < ((j : ℚ) + 1) / 2) :
    mode.nearest q = (j + 1) / 2 := by
  obtain ⟨m, rfl | rfl⟩ := Int.even_or_odd' j
  · have hfloor : ⌊q⌋ = m := by
      rw [Int.floor_eq_iff]
      push_cast at hlow hhigh
      constructor <;> linarith
    have hfract : Int.fract q = q - m := by rw [Int.fract, hfloor]
    push_cast at hhigh
    rw [nearest, if_pos (by linarith), hfloor]
    omega
  · have hfloor : ⌊q⌋ = m := by
      rw [Int.floor_eq_iff]
      push_cast at hlow hhigh
      constructor <;> linarith
    have hfract : Int.fract q = q - m := by rw [Int.fract, hfloor]
    push_cast at hlow
    rw [nearest, if_neg (by linarith), if_pos (by linarith), hfloor]
    omega

/-- Rounding halves to even has no direction. -/
theorem nearest_neg (q : ℚ) : halfEven.nearest (-q) = -halfEven.nearest q := by
  by_cases hwhole : ∃ n : ℤ, (n : ℚ) = q
  · obtain ⟨n, rfl⟩ := hwhole
    rw [← Int.cast_neg, nearest_intCast, nearest_intCast]
  · have hfract : Int.fract q ≠ 0 := fun h => hwhole (Int.fract_eq_zero_iff.mp h)
    have hneg : Int.fract (-q) = 1 - Int.fract q := Int.fract_neg hfract
    have hfloor : ⌊-q⌋ = -⌊q⌋ - 1 := by
      have hsum : (⌊-q⌋ : ℚ) = -⌊q⌋ - 1 := by
        have hq := Int.floor_add_fract q
        have hnq := Int.floor_add_fract (-q)
        linarith
      exact_mod_cast hsum
    rw [nearest, nearest, hneg, hfloor]
    rcases lt_trichotomy (2 * Int.fract q) 1 with hlow | hhalf | hhigh
    · rw [if_neg (by linarith), if_pos (by linarith), if_pos hlow]
      ring
    · rw [if_neg (by linarith), if_neg (by linarith), if_neg (by linarith), if_neg (by linarith),
        atHalf, atHalf]
      omega
    · rw [if_pos (by linarith), if_neg (by linarith), if_pos hhigh]
      ring

/-- Halves go up as if one half were added and the rest cut off. -/
theorem nearest_halfUp (q : ℚ) : halfUp.nearest q = ⌊q + 1 / 2⌋ := by
  have hq := Int.floor_add_fract q
  have h0 := Int.fract_nonneg q
  have h1 := Int.fract_lt_one q
  rw [eq_comm, Int.floor_eq_iff, nearest, atHalf, ite_self]
  split
  · constructor <;> linarith
  · push_cast
    constructor <;> linarith

/-- Division by a mode is the whole number nearest to the fraction. -/
theorem quotient_eq_nearest (mode : Rounding) (n : ℕ) {d : ℕ} (hd : 0 < d) :
    (mode.quotient n d : ℤ) = mode.nearest (n / d) := by
  have hdq : (0 : ℚ) < d := by exact_mod_cast hd
  have hfloor : ⌊(n / d : ℚ)⌋ = (n / d : ℕ) := by
    rw [← Nat.floor_div_eq_div (K := ℚ), Int.natCast_floor_eq_floor (by positivity)]
  have hfract : 2 * Int.fract (n / d : ℚ) = (2 * (n % d) : ℕ) / d := by
    have hn : (n : ℚ) = d * (n / d : ℕ) + (n % d : ℕ) := by
      exact_mod_cast (Nat.div_add_mod n d).symm
    rw [Int.fract, hfloor, Int.cast_natCast]
    field_simp
    push_cast
    linarith
  unfold nearest quotient
  simp only [hfract, hfloor, div_lt_one hdq, one_lt_div hdq, Nat.cast_lt]
  split
  · rfl
  · split
    · rfl
    · cases mode <;> rfl

/-- Dropping digits by a mode is the whole number nearest to the shortened coefficient. -/
theorem drop_eq_nearest (mode : Rounding) (c k : ℕ) :
    (mode.drop c k : ℤ) = mode.nearest (c / 10 ^ k) := by
  unfold drop
  split
  next h =>
    -- fewer digits than are dropped: the fraction is below one tenth
    have hc : c < 10 ^ (k - 1) :=
      (lt_ten_pow_digitCount c).trans_le (Nat.pow_le_pow_right (by norm_num) (by omega))
    have hk : (10 : ℚ) ^ k = 10 * 10 ^ (k - 1) := by
      rw [← pow_succ']
      congr 1
      omega
    have hcq : (c : ℚ) < 10 ^ (k - 1) := by exact_mod_cast hc
    have hsmall : (c : ℚ) / 10 ^ k < 1 / 2 := by
      rw [hk, div_lt_iff₀ (by positivity)]
      linarith [show (0 : ℚ) < 10 ^ (k - 1) by positivity]
    have hfloor : ⌊(c : ℚ) / 10 ^ k⌋ = 0 := by
      rw [Int.floor_eq_zero_iff]
      exact ⟨by positivity, by linarith⟩
    have hfract : Int.fract ((c : ℚ) / 10 ^ k) = c / 10 ^ k := by
      rw [Int.fract, hfloor, Int.cast_zero, sub_zero]
    rw [nearest, hfract, if_pos (by linarith), hfloor]
    rfl
  next =>
    rw [Nat.pow_eq, quotient_eq_nearest mode c (by positivity)]
    push_cast
    rfl

end Passbook.Rounding
