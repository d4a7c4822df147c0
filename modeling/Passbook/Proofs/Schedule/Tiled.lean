import Passbook.Proofs.Schedule.Conflicts
import Passbook.Proofs.Schedule.Sorted
import Mathlib.Data.List.Chain
import Mathlib.Tactic.Linarith

/-!
# Schedules without conflicts

Checking compares a slab with the slabs after it and with its neighbour. Along slabs in the order
of their lower bounds this is enough: no two ranges share an amount unless they are one range,
and the only amounts left out between the first start and the last end are those that lie
strictly within a step after the end of a slab.
-/

namespace Passbook

open Decimal

namespace Slab

variable {s t : Slab} {step : Decimal} {slabs later : List Slab} {a q : ℚ}

/-- The end of the slab and one step come to a sum that the context does not round. -/
def ExactStep (step : Decimal) (s : Slab) : Prop :=
  ∀ u ∈ s.upper, ∀ next, u.add step = .ok next → next.HasValue (u.value + step.value)

/-- The slabs are one range, or the second starts one step after the end of the first. -/
def Follows (q : ℚ) (s t : Slab) : Prop := s.SameBounds t ∨ ∃ u ∈ s.high, t.low = u + q

/-- Slabs without conflicts: none is inverted, any two are one range or apart, and neighbours
are one range or one step apart. -/
structure Tiled (q : ℚ) (slabs : List Slab) : Prop where
  upright : ∀ s ∈ slabs, ¬s.EndsBelow s.low
  apart : slabs.Pairwise fun s t => s.SameBounds t ∨ s.EndsBelow t.low
  chain : slabs.IsChain (Follows q)

/-- Two slabs conflict exactly if they overlap without being one range. -/
theorem conflictsWith_eq (hs : s.FiniteBounds) (ht : t.FiniteBounds) :
    s.conflictsWith t =
      .ok (decide ((¬s.EndsBelow t.low ∧ ¬t.EndsBelow s.low) ∧ ¬s.SameBounds t)) := by
  rw [conflictsWith, overlaps_eq hs ht, samePeriod_eq hs ht, ok_bind]
  by_cases h : ¬s.EndsBelow t.low ∧ ¬t.EndsBelow s.low
  · rw [decide_eq_true h, if_pos rfl]
    simp [h, pure, Except.pure]
  · rw [decide_eq_false h, if_neg (by decide)]
    simp only [h, false_and, decide_false]
    rfl

/-- A slab that is found not to be inverted does not end below its start. -/
theorem upright_of_isInverted (hs : s.FiniteBounds) (h : s.isInverted = .ok false) :
    ¬s.EndsBelow s.low := by
  rw [isInverted_eq hs] at h
  exact of_decide_eq_false (Except.ok.inj h)

/-- A slab without conflicts is one range with a later slab, or ends before it. -/
theorem apart_of_conflictsWith (hs : s.FiniteBounds) (ht : t.FiniteBounds) (hle : s.low ≤ t.low)
    (hupright : ¬t.EndsBelow t.low) (h : s.conflictsWith t = .ok false) :
    s.SameBounds t ∨ s.EndsBelow t.low := by
  rw [conflictsWith_eq hs ht] at h
  have hnot := of_decide_eq_false (Except.ok.inj h)
  have hback : ¬t.EndsBelow s.low := fun ⟨v, hv, hlt⟩ => hupright ⟨v, hv, hlt.trans_le hle⟩
  by_contra hneither
  rw [not_or] at hneither
  exact hnot ⟨⟨hneither.2, hback⟩, hneither.1⟩

/-- A slab without gap to the next is followed by it. -/
theorem follows_of_hasGap (hs : s.FiniteBounds) (ht : t.FiniteBounds) (hexact : s.ExactStep step)
    (h : s.hasGap t step = .ok false) : s.Follows step.value t := by
  by_cases hsame : s.SameBounds t
  · exact .inl hsame
  · rw [hasGap, samePeriod_eq hs ht, decide_eq_false hsame, ok_bind, if_neg (by decide)] at h
    cases hu : s.upper with
    | none =>
      rw [hu] at h
      exact nomatch h
    | some u =>
      rw [hu] at h
      obtain ⟨expected, hexpected, h⟩ := bind_eq_ok_iff.mp h
      have hvalue := hexact u hu expected hexpected
      rw [sameValue_eq ht.hasValue_lower hvalue, ok_bind, pure_eq_ok_iff, Bool.not_eq_false',
        decide_eq_true_iff] at h
      refine .inr ⟨u.value, ?_, h⟩
      simp [high, hu]

/-- A slab that neither overlaps the next nor has a gap to it is followed by it. -/
theorem follows_of_gapBefore (hs : s.FiniteBounds) (ht : t.FiniteBounds)
    (hexact : s.ExactStep step) (hconflicts : s.conflictsWith t = .ok false)
    (h : s.gapBefore t step = .ok []) : s.Follows step.value t := by
  obtain ⟨gap, hgap, h⟩ := bind_eq_ok_iff.mp h
  cases gap with
  | false => exact follows_of_hasGap hs ht hexact hgap
  | true =>
    rw [if_pos rfl, overlaps_eq hs ht, ok_bind] at h
    split at h
    next hoverlap =>
      rw [conflictsWith_eq hs ht] at hconflicts
      have hnot := of_decide_eq_false (Except.ok.inj hconflicts)
      rw [not_and, not_not] at hnot
      exact .inl (hnot (of_decide_eq_true hoverlap))
    · exact nomatch h

/-- Slabs in the order of their lower bounds in which nothing is found are tiled. -/
theorem tiled_of_conflictsOf (hbounds : ∀ s ∈ slabs, s.FiniteBounds)
    (hexact : ∀ s ∈ slabs, s.ExactStep step)
    (hsorted : slabs.Pairwise fun s t => s.low ≤ t.low)
    (h : Schedule.conflictsOf step slabs = .ok []) : Tiled step.value slabs := by
  induction slabs with
  | nil => exact ⟨by simp, List.Pairwise.nil, List.isChain_nil⟩
  | cons s later ih =>
    obtain ⟨hs, hlater⟩ := List.forall_mem_cons.mp hbounds
    obtain ⟨hle, hsortedLater⟩ := List.pairwise_cons.mp hsorted
    obtain ⟨hvalidate, hgaps, hothers⟩ := Schedule.conflictsOf_cons_eq_nil_iff.mp h
    obtain ⟨hinverted, hconflicts⟩ := of_validate_eq_nil hvalidate
    have hrest := ih hlater (List.forall_mem_cons.mp hexact).2 hsortedLater hothers
    have hupright := upright_of_isInverted hs hinverted
    refine ⟨List.forall_mem_cons.mpr ⟨hupright, hrest.upright⟩,
      List.pairwise_cons.mpr ⟨fun t ht => ?_, hrest.apart⟩, ?_⟩
    · exact apart_of_conflictsWith hs (hlater t ht) (hle t ht) (hrest.upright t ht)
        (hconflicts t ht)
    · cases later with
      | nil => exact List.isChain_singleton _
      | cons next rest =>
        refine List.isChain_cons_cons.mpr ⟨?_, hrest.chain⟩
        rw [gapAfter, isInverted_eq hs, decide_eq_false hupright, ok_bind,
          if_neg (by decide)] at hgaps
        exact follows_of_gapBefore hs (hlater next List.mem_cons_self)
          (hexact s List.mem_cons_self) (hconflicts next List.mem_cons_self) hgaps

end Slab

end Passbook
