import Passbook.Proofs.Decimal.Order
import Mathlib.Order.WithBot

/-!
# The order with its two ends

Every decimal but those that stand for no number has a point on the line of numbers with an end
on either side, where the infinities are. Comparisons of decimals are the order of their points,
so they are total and transitive there, and a fault says that a point is missing.
-/

namespace Passbook.Decimal

variable {x y z : Decimal} {p q : WithBot (WithTop ℚ)}

/-- The point of a number on the line with its two ends. -/
def inner (q : ℚ) : WithBot (WithTop ℚ) := ((q : WithTop ℚ) : WithBot (WithTop ℚ))

/-- The point of a decimal on the line with its two ends. -/
def point? : Decimal → Option (WithBot (WithTop ℚ))
  | finite x => some (inner x.value)
  | infinite negative => some (if negative then ⊥ else ⊤)
  | nan .. => none

theorem exists_point?_iff : (∃ p, x.point? = some p) ↔ x.isNaN = false := by
  cases x <;> simp [point?, isNaN]

theorem bot_lt_inner (q : ℚ) : ⊥ < inner q := WithBot.bot_lt_coe _

theorem inner_lt_top (q : ℚ) : inner q < ⊤ := WithBot.coe_lt_coe.mpr (WithTop.coe_lt_top q)

theorem compare_inner (p q : ℚ) : compare (inner p) (inner q) = compare p q := by
  have hmono : StrictMono inner := WithBot.coe_strictMono.comp WithTop.coe_strictMono
  rw [← cmp_eq_compare, ← cmp_eq_compare, hmono.cmp_map_eq]

/-- Decimals compare as their points. -/
theorem compare?_of_point? (hx : x.point? = some p) (hy : y.point? = some q) :
    x.compare? y = some (compare p q) := by
  cases x with
  | finite u =>
    obtain rfl := Option.some.inj hx
    cases y with
    | finite v =>
      obtain rfl := Option.some.inj hy
      rw [compare?, Scaled.cmp_eq, compare_inner]
    | infinite t =>
      obtain rfl := Option.some.inj hy
      cases t with
      | false => exact congrArg some (compare_lt_iff_lt.mpr (inner_lt_top _)).symm
      | true => exact congrArg some (compare_gt_iff_gt.mpr (bot_lt_inner _)).symm
    | nan s g n => simp [point?] at hy
  | infinite s =>
    obtain rfl := Option.some.inj hx
    cases y with
    | finite v =>
      obtain rfl := Option.some.inj hy
      cases s with
      | false => exact congrArg some (compare_gt_iff_gt.mpr (inner_lt_top _)).symm
      | true => exact congrArg some (compare_lt_iff_lt.mpr (bot_lt_inner _)).symm
    | infinite t =>
      obtain rfl := Option.some.inj hy
      have hends : (⊥ : WithBot (WithTop ℚ)) < ⊤ := (bot_lt_inner 0).trans (inner_lt_top 0)
      cases s <;> cases t
      · exact congrArg some (compare_eq_iff_eq.mpr rfl).symm
      · exact congrArg some (compare_gt_iff_gt.mpr hends).symm
      · exact congrArg some (compare_lt_iff_lt.mpr hends).symm
      · exact congrArg some (compare_eq_iff_eq.mpr rfl).symm
    | nan s g n => simp [point?] at hy
  | nan s g n => simp [point?] at hx

/-- What compares has points. -/
theorem point?_of_compare? {o : Ordering} (h : x.compare? y = some o) :
    ∃ p q, x.point? = some p ∧ y.point? = some q ∧ compare p q = o := by
  have hx : x.isNaN = false := by
    cases x with
    | nan s g n => exact nomatch h
    | _ => rfl
  have hy : y.isNaN = false := by
    cases y with
    | nan s g n => cases x <;> exact nomatch h
    | _ => rfl
  obtain ⟨p, hp⟩ := exists_point?_iff.mpr hx
  obtain ⟨q, hq⟩ := exists_point?_iff.mpr hy
  rw [compare?_of_point? hp hq] at h
  exact ⟨p, q, hp, hq, Option.some.inj h⟩

/-- The comparison with exchanged sides. -/
theorem compare?_swap (x y : Decimal) : y.compare? x = (x.compare? y).map Ordering.swap := by
  cases hc : x.compare? y with
  | some o =>
    obtain ⟨p, q, hp, hq, rfl⟩ := point?_of_compare? hc
    rw [compare?_of_point? hq hp, Option.map_some, ← cmp_eq_compare, ← cmp_eq_compare, cmp_swap]
  | none =>
    cases hd : y.compare? x with
    | none => rfl
    | some o =>
      obtain ⟨q, p, hq, hp, -⟩ := point?_of_compare? hd
      rw [compare?_of_point? hp hq] at hc
      exact nomatch hc

/-- Decimals other than those that stand for no number can be compared. -/
theorem exists_compare? (hx : x.isNaN = false) (hy : y.isNaN = false) :
    ∃ o, x.compare? y = some o := by
  obtain ⟨p, hp⟩ := exists_point?_iff.mpr hx
  obtain ⟨q, hq⟩ := exists_point?_iff.mpr hy
  exact ⟨_, compare?_of_point? hp hq⟩

/-- A decimal is found to be at most another one if it compares as smaller or equal. -/
theorem le_eq_true_iff : x.le y = .ok true ↔ ∃ o, x.compare? y = some o ∧ o ≠ .gt := by
  rw [le]
  cases x.compare? y with
  | none => simp
  | some o => simp

/-- What is found to be at most another decimal has a point, which is at most the other one's. -/
theorem point?_of_le (h : x.le y = .ok true) :
    ∃ p q, x.point? = some p ∧ y.point? = some q ∧ p ≤ q := by
  obtain ⟨o, hc, hne⟩ := le_eq_true_iff.mp h
  obtain ⟨p, q, hp, hq, rfl⟩ := point?_of_compare? hc
  exact ⟨p, q, hp, hq, not_lt.mp fun hlt => hne (compare_gt_iff_gt.mpr hlt)⟩

protected theorem le_trans (hxy : x.le y = .ok true) (hyz : y.le z = .ok true) :
    x.le z = .ok true := by
  obtain ⟨p, q, hp, hq, hpq⟩ := point?_of_le hxy
  obtain ⟨q', r, hq', hr, hqr⟩ := point?_of_le hyz
  obtain rfl := Option.some.inj (hq.symm.trans hq')
  have hpr : compare p r ≠ .gt := fun hgt => not_lt.mpr (hpq.trans hqr) (compare_gt_iff_gt.mp hgt)
  exact le_eq_true_iff.mpr ⟨_, compare?_of_point? hp hr, hpr⟩

/-- What is found not to be below another decimal is at least that one. -/
theorem le_of_not_lt (h : x.lt y = .ok false) : y.le x = .ok true := by
  rw [lt] at h
  rw [le_eq_true_iff, compare?_swap x y]
  cases hc : x.compare? y with
  | none =>
    simp [hc] at h
  | some o =>
    have hne : o ≠ .lt := by simpa [hc] using h
    refine ⟨o.swap, rfl, ?_⟩
    cases o with
    | lt => exact absurd rfl hne
    | eq => decide
    | gt => decide

/-- Equality of values has no direction. -/
theorem sameValue_comm (x y : Decimal) : x.sameValue y = y.sameValue x := by
  rw [sameValue, sameValue, compare?_swap x y, Bool.or_comm]
  cases x.compare? y with
  | none => rfl
  | some o => cases o <;> rfl

end Passbook.Decimal
