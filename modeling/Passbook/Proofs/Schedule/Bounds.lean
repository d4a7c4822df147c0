import Passbook.Proofs.Decimal.Order
import Passbook.Proofs.Outcome
import Passbook.Schedule

/-!
# Slabs as ranges of numbers

A slab whose bounds are numbers is a range from its lower bound to its upper bound, or without
end. On such slabs the comparisons of two slabs, and of a slab with an amount, never fault and
say what the ranges do.
-/

namespace Passbook.Slab

open Decimal

variable {s t : Slab} {amount : Decimal} {a : ℚ}

/-- Both bounds are numbers; a slab without upper bound needs only the lower one. -/
structure FiniteBounds (s : Slab) : Prop where
  lower : s.lower.isFinite = true
  upper : ∀ u ∈ s.upper, u.isFinite = true

/-- The first amount of the slab. -/
def low (s : Slab) : ℚ := s.lower.value

/-- The last amount of the slab, if it has an end. -/
def high (s : Slab) : Option ℚ := s.upper.map Decimal.value

/-- The slab ends below a number. -/
def EndsBelow (s : Slab) (q : ℚ) : Prop := ∃ u ∈ s.high, u < q

/-- The number is from the lower to the upper bound. -/
def Covers (s : Slab) (a : ℚ) : Prop := s.low ≤ a ∧ ¬s.EndsBelow a

/-- The slabs are one range. -/
def SameBounds (s t : Slab) : Prop := s.low = t.low ∧ s.high = t.high

instance (s : Slab) (q : ℚ) : Decidable (s.EndsBelow q) :=
  inferInstanceAs (Decidable (∃ u ∈ s.high, u < q))

instance (s : Slab) (a : ℚ) : Decidable (s.Covers a) :=
  inferInstanceAs (Decidable (s.low ≤ a ∧ ¬s.EndsBelow a))

instance (s t : Slab) : Decidable (s.SameBounds t) :=
  inferInstanceAs (Decidable (s.low = t.low ∧ s.high = t.high))

theorem SameBounds.symm (h : s.SameBounds t) : t.SameBounds s := ⟨h.1.symm, h.2.symm⟩

theorem SameBounds.endsBelow_iff (h : s.SameBounds t) {q : ℚ} :
    s.EndsBelow q ↔ t.EndsBelow q := by
  rw [EndsBelow, EndsBelow, h.2]

theorem FiniteBounds.hasValue_lower (h : s.FiniteBounds) : s.lower.HasValue s.low :=
  hasValue_value h.lower

theorem FiniteBounds.isNaN_lower (h : s.FiniteBounds) : s.lower.isNaN = false :=
  isNaN_of_isFinite h.lower

theorem FiniteBounds.hasValue_upper (h : s.FiniteBounds) {u : Decimal} (hu : s.upper = some u) :
    u.HasValue u.value :=
  hasValue_value (h.upper u hu)

theorem endsBelow_of_upper_eq_none (hu : s.upper = none) {q : ℚ} : ¬s.EndsBelow q := by
  rintro ⟨u, hmem, -⟩
  simp [high, hu] at hmem

theorem endsBelow_of_upper_eq_some {u : Decimal} (hu : s.upper = some u) {q : ℚ} :
    s.EndsBelow q ↔ u.value < q := by
  simp [EndsBelow, high, hu]

/-- An amount is in a slab exactly if the range covers it. -/
theorem contains_eq (hs : s.FiniteBounds) (ha : amount.HasValue a) :
    s.contains amount = .ok (decide (s.Covers a)) := by
  rw [contains, le_eq hs.hasValue_lower ha, ok_bind]
  by_cases hlow : s.low ≤ a
  · rw [decide_eq_true hlow, if_pos rfl]
    cases hu : s.upper with
    | none => simp [Covers, hlow, endsBelow_of_upper_eq_none hu, pure, Except.pure]
    | some u =>
      simp only [le_eq ha (hs.hasValue_upper hu), Covers, hlow, true_and,
        endsBelow_of_upper_eq_some hu, not_lt]
  · rw [decide_eq_false hlow, if_neg (by decide)]
    simp [Covers, hlow, pure, Except.pure]

/-- A slab is inverted exactly if it ends below its start. -/
theorem isInverted_eq (hs : s.FiniteBounds) :
    s.isInverted = .ok (decide (s.EndsBelow s.low)) := by
  unfold isInverted
  cases hu : s.upper with
  | none => simp [endsBelow_of_upper_eq_none hu]
  | some u =>
    simp only [lt_eq (hs.hasValue_upper hu) hs.hasValue_lower, endsBelow_of_upper_eq_some hu]

/-- A slab is found to end before another one if it ends below its start. -/
theorem endsBefore_eq (hs : s.FiniteBounds) (ht : t.FiniteBounds) :
    s.endsBefore t = .ok (decide (s.EndsBelow t.low)) := by
  unfold endsBefore
  cases hu : s.upper with
  | none => simp [endsBelow_of_upper_eq_none hu]
  | some u =>
    simp only [lt_eq (hs.hasValue_upper hu) ht.hasValue_lower, endsBelow_of_upper_eq_some hu]

/-- Two slabs overlap exactly if neither ends below the start of the other. -/
theorem overlaps_eq (hs : s.FiniteBounds) (ht : t.FiniteBounds) :
    s.overlaps t = .ok (decide (¬s.EndsBelow t.low ∧ ¬t.EndsBelow s.low)) := by
  rw [overlaps, endsBefore_eq hs ht, endsBefore_eq ht hs, ok_bind, ok_bind]
  by_cases hst : s.EndsBelow t.low
  · simp [hst, pure, Except.pure]
  · by_cases hts : t.EndsBelow s.low <;> simp [hst, hts, pure, Except.pure]

/-- Upper bounds are found to be the same if the slabs end at the same number. -/
theorem sameUpper_eq (hs : s.FiniteBounds) (ht : t.FiniteBounds) :
    sameUpper s.upper t.upper = .ok (decide (s.high = t.high)) := by
  cases hu : s.upper with
  | none => cases hv : t.upper <;> simp [sameUpper, high, hu, hv]
  | some u =>
    cases hv : t.upper with
    | none => simp [sameUpper, high, hu, hv]
    | some v =>
      simp [sameUpper, high, hu, hv, sameValue_eq (hs.hasValue_upper hu) (ht.hasValue_upper hv)]

/-- Two slabs have the same period exactly if they are one range. -/
theorem samePeriod_eq (hs : s.FiniteBounds) (ht : t.FiniteBounds) :
    s.samePeriod t = .ok (decide (s.SameBounds t)) := by
  rw [samePeriod, sameValue_eq hs.hasValue_lower ht.hasValue_lower, sameUpper_eq hs ht, ok_bind]
  by_cases hlow : s.low = t.low <;> simp [SameBounds, hlow, pure, Except.pure]

end Passbook.Slab
