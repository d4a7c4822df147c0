import Passbook.Proofs.Decimal.Value

/-!
# Numbers that the context keeps all digits of

A number is representable if it has at most as many digits as the context keeps and none below
its least place. Whole multiples of one power of ten form a group; on such a grid a sum is
representable as soon as it is small enough.
-/

namespace Passbook

namespace Decimal

/-- The whole multiples of `10 ^ e`. -/
def grid (e : Int) : AddSubgroup ℚ := AddSubgroup.zmultiples ((10 : ℚ) ^ e)

/-- The power of ten that the size of every result stays below. -/
def limit : ℚ := 10 ^ (maxExponent + 1)

theorem limit_pos : 0 < limit := by
  unfold limit
  positivity

/-- The number keeps all its digits in the context. -/
def Representable (q : ℚ) : Prop :=
  ∃ e, leastExponent ≤ e ∧ q ∈ grid e ∧ |q| < 10 ^ (e + precision)

variable {e f : Int} {q : ℚ}

/-- A grid consists of the whole multiples of its power of ten. -/
theorem mem_grid_iff : q ∈ grid e ↔ ∃ n : Int, q = n * 10 ^ e := by
  simp [grid, AddSubgroup.mem_zmultiples_iff, eq_comm]

theorem int_mul_mem_grid (n : Int) (e : Int) : (n : ℚ) * 10 ^ e ∈ grid e :=
  mem_grid_iff.mpr ⟨n, rfl⟩

/-- A whole multiple of a power of ten is one of every smaller power. -/
theorem grid_anti (h : e ≤ f) : grid f ≤ grid e := by
  intro q hq
  obtain ⟨n, rfl⟩ := mem_grid_iff.mp hq
  have hf : (f - e).toNat + e = f := by omega
  refine mem_grid_iff.mpr ⟨n * 10 ^ (f - e).toNat, ?_⟩
  rw [Int.cast_mul, Int.cast_pow, Int.cast_ofNat, mul_assoc, ← zpow_natCast,
    ← zpow_add₀ (by norm_num), hf]

/-- A power of ten lies on the grid of every lower one. -/
theorem ten_pow_mem_grid (h : e ≤ f) : (10 : ℚ) ^ f ∈ grid e := by
  have hone := int_mul_mem_grid 1 f
  rw [Int.cast_one, one_mul] at hone
  exact grid_anti h hone

/-- On a grid that the context reaches, a number of few units is representable. -/
theorem representable_of_mem_grid (he : leastExponent ≤ e) (h : q ∈ grid e)
    (hlt : |q| < 10 ^ (e + precision)) : Representable q :=
  ⟨e, he, h, hlt⟩

/-- A power of ten that the context reaches is representable. -/
theorem representable_ten_pow (h : leastExponent ≤ e) : Representable ((10 : ℚ) ^ e) := by
  refine representable_of_mem_grid h (ten_pow_mem_grid le_rfl) ?_
  rw [abs_of_pos (by positivity)]
  exact zpow_lt_zpow_right₀ (by norm_num) (by norm_num [precision])

/-- So is one of exactly one unit more than that: it is a power of ten. -/
theorem representable_of_mem_grid_le (he : leastExponent ≤ e) (h : q ∈ grid e)
    (hle : |q| ≤ 10 ^ (e + precision)) : Representable q := by
  rcases hle.lt_or_eq with hlt | hpower
  · exact representable_of_mem_grid he h hlt
  · refine representable_of_mem_grid (e := e + 1) (by omega) ?_ ?_
    · rw [← abs_mem_iff, hpower]
      exact ten_pow_mem_grid (by unfold precision; omega)
    · rw [hpower]
      exact zpow_lt_zpow_right₀ (by norm_num) (by omega)

/-- A whole multiple above zero is at least one unit. -/
theorem ten_pow_le_of_mem_grid (h : q ∈ grid e) (hq : 0 < q) : (10 : ℚ) ^ e ≤ q := by
  obtain ⟨n, rfl⟩ := mem_grid_iff.mp h
  have hp : (0 : ℚ) < 10 ^ e := by positivity
  have hn : (1 : ℚ) ≤ n := by exact_mod_cast Int.cast_pos.mp (pos_of_mul_pos_left hq hp.le)
  exact le_mul_of_one_le_left hp.le hn

end Decimal

namespace Scaled

open Decimal

/-- A number lies on the grid of its last place. -/
theorem value_mem_grid (x : Scaled) : x.value ∈ grid x.exponent := by
  have h := value_eq_units (le_refl x.exponent)
  rw [h]
  exact int_mul_mem_grid _ _

end Scaled

end Passbook
