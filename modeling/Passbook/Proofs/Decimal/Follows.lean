import Passbook.Proofs.Decimal.Sum

/-!
# Totals of parts

Numbers have a running total that no addition rounds. If one of them is cut, and of those after it
some are dropped, the total of what is left may be rounded, as no cut number needs to suit the
places of the others. Still no representable number stands between the exact sum of what is left
and this total below it: after the cut only numbers are added that lead from one exact running
total to the next, and these are whole multiples of the last place of the rounded total.
-/

namespace Passbook

namespace Decimal

variable {start x : Decimal} {xs : List Decimal} {a q t whole part : ℚ} {as qs : List ℚ}

/-- The total `t` is representable, at most the total `whole` of all numbers, and at least every
representable number up to the exact sum `part` of what is left of them. -/
structure Follows (t whole part : ℚ) : Prop where
  representable : Representable t
  nonneg : 0 ≤ t
  le : t ≤ whole
  covers : ∀ q, Representable q → q ≤ part → q ≤ t

/-- Where one number is cut the exact sum is rounded once. -/
theorem follows_rounded (h0 : 0 ≤ part) (hle : part ≤ whole) (hwhole : Representable whole) :
    Follows (rounded part) whole part where
  representable := representable_rounded part
  nonneg := rounded_nonneg h0
  le := hwhole.rounded_le hle
  covers _ hq hpart := hq.le_rounded hpart

namespace Follows

/-- A number of which nothing is left only adds to all numbers. -/
theorem drop (h : Follows t whole part) (ha : 0 ≤ a) :
    Follows (rounded (t + 0)) (whole + a) (part + 0) := by
  rw [add_zero, add_zero, rounded_of_representable h.representable]
  exact ⟨h.representable, h.nonneg, h.le.trans (le_add_of_nonneg_right ha), h.covers⟩

/-- A number that is left alone keeps a total that follows. A representable number below the new
sum that the new total falls short of would be less than one unit above that total, but the total,
the number and what is added are whole multiples of it. -/
theorem keep (h : Follows t whole part) (hwhole : Representable whole)
    (hnext : Representable (whole + a)) (ha : 0 ≤ a) :
    Follows (rounded (t + a)) (whole + a) (part + a) where
  representable := representable_rounded _
  nonneg := rounded_nonneg (add_nonneg h.nonneg ha)
  le := hnext.rounded_le (by linarith [h.le])
  covers q hq hpart := by
    obtain ⟨e, hunit, hmem⟩ := h.representable.exists_next h.nonneg
    by_contra hshort
    have hlow : t + a < q := by
      by_contra hle
      exact hshort (hq.le_rounded (not_lt.mp hle))
    have hadded : a ∈ grid e := by
      have hdiff := sub_mem (hmem _ hnext (by linarith [h.le])) (hmem _ hwhole h.le)
      rwa [add_sub_cancel_left] at hdiff
    have hgap : q - (t + a) ∈ grid e :=
      sub_mem (hmem q hq (by linarith)) (add_mem (hmem t h.representable le_rfl) hadded)
    have hone : (10 : ℚ) ^ e ≤ q - (t + a) := ten_pow_le_of_mem_grid hgap (sub_pos.mpr hlow)
    have hcovered := h.covers _ hunit (by linarith)
    have hpos : (0 : ℚ) < 10 ^ e := by positivity
    linarith

/-- An addition to a total returns if the total that it leads to follows numbers below the limit. -/
theorem add (h : Follows (rounded (t + q)) whole part) (hs : start.HasValue t) (hx : x.HasValue q)
    (hwhole : Fits whole) : ∃ next, start.add x = .ok next ∧ next.HasValue (rounded (t + q)) := by
  refine (add_rounds hs hx).returns ?_
  rw [abs_of_nonneg h.nonneg]
  exact (h.le.trans (le_abs_self whole)).trans_lt hwhole.lt_limit

/-- A total that follows goes on to one where numbers are left alone or dropped. -/
theorem sumFrom (h : Follows t whole part) (hs : start.HasValue t)
    (hx : List.Forall₂ HasValue xs qs) (hqs : List.Forall₂ (fun q a => q = 0 ∨ q = a) qs as)
    (has : ∀ a ∈ as, 0 ≤ a) (hr : RunningTotals Fits whole as) :
    ∃ total r, sumFrom start xs = .ok total ∧ total.HasValue r ∧
      Follows r (whole + as.sum) (part + qs.sum) := by
  induction hqs generalizing start xs t whole part with
  | nil =>
    cases hx
    exact ⟨start, t, rfl, hs, by simpa using h⟩
  | @cons q a qs as hfirst _ ih =>
    obtain ⟨ha, has⟩ := List.forall_mem_cons.mp has
    obtain ⟨hwhole, hr⟩ := RunningTotals.cons_iff.mp hr
    have hnext : Follows (rounded (t + q)) (whole + a) (part + q) := by
      rcases hfirst with rfl | rfl
      · exact h.drop ha
      · exact h.keep hwhole.representable hr.head.representable ha
    cases hx with
    | @cons x _ xs _ hq hrest =>
      obtain ⟨next, hadd, hvalue⟩ := hnext.add hs hq hr.head
      obtain ⟨total, r, htotal, hr', hfollows⟩ := ih hnext hvalue hrest has hr
      refine ⟨total, r, by rw [sumFrom_cons, hadd, ok_bind, htotal], hr', ?_⟩
      rwa [List.sum_cons, List.sum_cons, ← add_assoc, ← add_assoc]

end Follows

end Decimal

end Passbook
