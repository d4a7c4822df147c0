import Passbook.Proofs.Schedule.Bounds
import Passbook.Proofs.Schedule.Ordered

/-!
# Sorted ranges

Slabs with numbers as bounds come out of sorting in the order of these numbers. Sorting is
stable: slabs of which each may stand before the others keep the order in which they were given.
-/

namespace Passbook

namespace Slab

variable {s t : Slab} {slabs : List Slab} {p : Slab → Bool}

/-- A slab starts no later than another one exactly if its first amount is not above. -/
theorem startsNoLater_iff (hs : s.FiniteBounds) (ht : t.FiniteBounds) :
    s.startsNoLater t = true ↔ s.low ≤ t.low := by
  rw [startsNoLater, Decimal.compare?_eq hs.hasValue_lower ht.hasValue_lower, bne_iff_ne, ne_eq,
    Option.some.injEq, compare_gt_iff_gt, not_lt]

/-- Slabs that are in order start at ascending numbers. -/
theorem Ordered.low_le (h : Ordered slabs) (hbounds : ∀ s ∈ slabs, s.FiniteBounds) :
    slabs.Pairwise fun s t => s.low ≤ t.low := by
  refine h.imp_of_mem fun {s t} hs ht hle => ?_
  rw [StartsBy, Decimal.le_eq (hbounds s hs).hasValue_lower (hbounds t ht).hasValue_lower] at hle
  exact of_decide_eq_true (Except.ok.inj hle)

/-- Sorted slabs are in the order of their lower bounds. -/
theorem sortByLower_sorted (h : ∀ s ∈ slabs, s.FiniteBounds) :
    (sortByLower slabs).Pairwise fun s t => s.low ≤ t.low :=
  (sortByLower_ordered_of_forall fun s hs => (h s hs).isNaN_lower).low_le
    fun s hs => h s (mem_sortByLower.mp hs)

/-- A slab outside a selection changes nothing in it. -/
theorem filter_insertByLower_of_not (hs : p s = false) :
    (insertByLower s slabs).filter p = slabs.filter p := by
  induction slabs with
  | nil => simp [insertByLower, hs]
  | cons t rest ih =>
    rw [insertByLower]
    split
    · rw [List.filter_cons_of_neg (by simp [hs])]
    · rw [List.filter_cons, List.filter_cons, ih]

/-- A slab that may stand before all of a selection comes first in it. -/
theorem filter_insertByLower (hs : p s = true)
    (h : ∀ t ∈ slabs, p t = true → s.startsNoLater t = true) :
    (insertByLower s slabs).filter p = s :: slabs.filter p := by
  induction slabs with
  | nil => simp [insertByLower, hs]
  | cons t rest ih =>
    obtain ⟨ht, hrest⟩ := List.forall_mem_cons.mp h
    rw [insertByLower]
    split
    · rw [List.filter_cons_of_pos hs]
    next hlater =>
      have hpt : ¬p t = true := fun hp => hlater (ht hp)
      rw [List.filter_cons_of_neg hpt, List.filter_cons_of_neg hpt, ih hrest]

/-- Sorting keeps the order of slabs of which each may stand before the others. -/
theorem filter_sortByLower
    (h : ∀ s ∈ slabs, ∀ t ∈ slabs, p s = true → p t = true → s.startsNoLater t = true) :
    (sortByLower slabs).filter p = slabs.filter p := by
  induction slabs with
  | nil => rfl
  | cons s rest ih =>
    have hrest := ih fun x hx y hy =>
      h x (List.mem_cons_of_mem s hx) y (List.mem_cons_of_mem s hy)
    have hsort : sortByLower (s :: rest) = insertByLower s (sortByLower rest) := rfl
    rw [hsort]
    cases hp : p s with
    | false =>
      rw [filter_insertByLower_of_not hp, hrest, List.filter_cons_of_neg (by simp [hp])]
    | true =>
      rw [List.filter_cons_of_pos hp, ← hrest]
      refine filter_insertByLower hp fun t ht hpt => ?_
      exact h s List.mem_cons_self t (List.mem_cons_of_mem s (mem_sortByLower.mp ht)) hp hpt

end Slab

namespace Schedule

variable {slabs : List Slab} {step amount : Decimal} {schedule : Schedule} {a : ℚ}

/-- A schedule holds the given slabs, sorted. -/
theorem ofSlabs_eq_ok (h : ofSlabs slabs step = .ok schedule) :
    schedule.slabs = Slab.sortByLower slabs ∧ schedule.step = step := by
  obtain ⟨sorted, hsorted, h⟩ := bind_eq_ok_iff.mp h
  obtain rfl := pure_eq_ok_iff.mp h
  exact ⟨(Slab.sortByLower?_eq_ok_iff.mp hsorted).2.symm, rfl⟩

/-- The search returns the first slab that covers the amount. -/
theorem find?_eq (h : ∀ s ∈ slabs, s.FiniteBounds) (ha : amount.HasValue a) :
    find? amount slabs = .ok (slabs.find? fun s => decide (s.Covers a)) := by
  induction slabs with
  | nil => rfl
  | cons s rest ih =>
    obtain ⟨hs, hrest⟩ := List.forall_mem_cons.mp h
    rw [find?, Slab.contains_eq hs ha, ok_bind, List.find?_cons]
    by_cases hcovers : s.Covers a
    · rw [decide_eq_true hcovers, if_pos rfl]
      rfl
    · rw [decide_eq_false hcovers, if_neg (by decide), ih hrest]

/-- The fee for an amount is that of the first slab that covers it. -/
theorem resolve_eq (h : ∀ s ∈ schedule.slabs, s.FiniteBounds) (ha : amount.HasValue a) :
    schedule.resolve amount = (schedule.slabs.find? fun s => decide (s.Covers a)).elim
      (.error (.noMatchingSlab amount)) (fun s => .ok s.fee) := by
  rw [resolve, find?_eq h ha]
  cases schedule.slabs.find? fun s => decide (s.Covers a) with
  | none => rfl
  | some s => rfl

end Schedule

end Passbook
