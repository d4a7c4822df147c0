import Passbook.Proofs.Decimal.AtMost
import Passbook.Proofs.Split.Report

/-!
# Fewer splits are borne too

A fee bears a list of splits if the totals of both kinds can be computed and they and what both
parts come to together are within their bounds, rounded as they are. Every step of the check keeps
the order of numbers from zero up and returns on smaller ones, so a fee that bears a list bears
every part of it. Nothing is then found against a list of which splits were removed or made
inactive.
-/

namespace Passbook

open Decimal

namespace Split

open Fee (activeOf)

/-- The fee bears the splits: all values are numbers from zero up, the percentages total `p`, the
flat amounts `t` and both parts together `c`, each within its bound. -/
structure Borne (fee : Decimal) (splits : List Split) (p t c : Decimal) : Prop where
  value : ∀ s ∈ splits, s.value.isFinite = true ∧ 0 ≤ s.value.value
  percentages : Decimal.sum (percentageValues splits) = .ok p
  flats : Decimal.sum (flatValues splits) = .ok t
  percentage_le : p.AtMost 100
  flat_le : t.AtMost fee
  combined : Totals.combined ⟨p, t, []⟩ fee = .ok c
  combined_le : c.AtMost fee

/-- The split, made inactive. -/
def deactivated (s : Split) : Split := { s with active := false }

variable {splits kept other : List Split} {fee p t c : Decimal} {f : ℚ}

theorem activeOf_sublist (h : kept.Sublist splits) : (activeOf kept).Sublist (activeOf splits) :=
  h.filter _

/-- Making splits inactive removes them from the active ones. -/
theorem activeOf_sublist_of_deactivated
    (h : List.Forall₂ (fun s t => t = s ∨ t = s.deactivated) kept other) :
    (activeOf other).Sublist (activeOf kept) := by
  induction h with
  | nil => exact .slnil
  | @cons s t kept other hfirst _ ih =>
    rcases hfirst with rfl | rfl
    · cases h : t.active with
      | true =>
        rw [activeOf_cons_of_active h, activeOf_cons_of_active h]
        exact ih.cons_cons t
      | false =>
        rw [activeOf_cons_of_inactive h, activeOf_cons_of_inactive h]
        exact ih
    · rw [activeOf_cons_of_inactive rfl]
      exact ih.trans (activeOf_sublist (List.sublist_cons_self s kept))

section values
variable (h : ∀ s ∈ splits, s.value.isFinite = true ∧ 0 ≤ s.value.value)
include h

/-- The values of one kind are numbers from zero up if all values are. -/
theorem values_nonneg (kind : Split → Bool) :
    ∀ x ∈ (splits.filter kind).map (·.value), x.isFinite = true ∧ 0 ≤ x.value := by
  intro x hx
  obtain ⟨s, hs, rfl⟩ := List.mem_map.mp hx
  exact h s (List.mem_filter.mp hs).1

/-- The total of the values of one kind of fewer splits is no larger. -/
theorem sum_values_sublist (hsub : kept.Sublist splits) (kind : Split → Bool) {total : Decimal}
    (htotal : Decimal.sum ((splits.filter kind).map (·.value)) = .ok total) :
    ∃ less, Decimal.sum ((kept.filter kind).map (·.value)) = .ok less ∧ 0 ≤ less.value ∧
      less.AtMost total := by
  have hzero : Representable (0 : Decimal).value := by
    rw [hasValue_zero.value_eq]
    exact (fits_natCast (n := 0) (by decide)).representable
  exact AtMost.sumFrom_sublist ((hsub.filter kind).map _) (values_nonneg h kind)
    (.refl hasValue_zero.isFinite) hasValue_zero.value_eq.ge hzero htotal

end values

/-- What smaller totals take from a fee together is no larger. -/
theorem Totals.combined_atMost {p' t' : Decimal} (hfee : fee.HasValue f) (hf : 0 ≤ f)
    (hp0 : 0 ≤ p.value) (ht0 : 0 ≤ t.value) (hp : p.AtMost p') (ht : t.AtMost t')
    (h : Totals.combined ⟨p', t', []⟩ fee = .ok c) :
    ∃ less, Totals.combined ⟨p, t, []⟩ fee = .ok less ∧ less.AtMost c := by
  obtain ⟨product', hproduct', h⟩ := bind_eq_ok_iff.mp h
  obtain ⟨share', hshare', hsum'⟩ := bind_eq_ok_iff.mp h
  obtain ⟨product, hproduct, hproduct0, hproductLe⟩ :=
    (mul_rounds hfee hp.hasValue_left).exists_atMost (mul_rounds hfee hp.hasValue_right)
      (mul_nonneg hf hp0) (mul_le_mul_of_nonneg_left hp.le hf) hproduct'
  obtain ⟨share, hshare, hshare0, hshareLe⟩ :=
    (hundredth_rounds hproductLe.hasValue_left).exists_atMost
      (hundredth_rounds hproductLe.hasValue_right) (div_nonneg hproduct0 (by norm_num))
      (div_le_div_of_nonneg_right hproductLe.le (by norm_num)) hshare'
  obtain ⟨less, hless, -, hle⟩ :=
    (add_rounds hshareLe.hasValue_left ht.hasValue_left).exists_atMost
      (add_rounds hshareLe.hasValue_right ht.hasValue_right) (add_nonneg hshare0 ht0)
      (add_le_add hshareLe.le ht.le) hsum'
  exact ⟨less, by rw [Totals.combined, hproduct, ok_bind, hshare, ok_bind, hless], hle⟩

/-- A fee that bears some splits bears every part of them. -/
theorem Borne.sublist (h : Borne fee splits p t c) (hsub : kept.Sublist splits) :
    ∃ p' t' c', Borne fee kept p' t' c' := by
  obtain ⟨p', hp', hp0, hp⟩ := sum_values_sublist h.value hsub (·.isPercentage) h.percentages
  obtain ⟨t', ht', ht0, ht⟩ := sum_values_sublist h.value hsub (·.isFlatAmount) h.flats
  have hf : 0 ≤ fee.value := ht0.trans (ht.le.trans h.flat_le.le)
  obtain ⟨c', hc', hc⟩ :=
    Totals.combined_atMost h.flat_le.hasValue_right hf hp0 ht0 hp ht h.combined
  exact ⟨p', t', c', {
    value := fun s hs => h.value s (hsub.subset hs)
    percentages := hp'
    flats := ht'
    percentage_le := hp.trans h.percentage_le
    flat_le := ht.trans h.flat_le
    combined := hc'
    combined_le := hc.trans h.combined_le }⟩

/-- A list against which nothing is found is borne by the fee. -/
theorem exists_borne (hfee : fee.HasValue f) (h : validateTotals splits fee = .ok []) :
    ∃ p t c, Borne fee (activeOf splits) p t c := by
  rw [← validateTotals_activeOf] at h
  obtain ⟨totals, htotals, hneg, hhundred, hflat, hexceeds⟩ := validateTotals_eq_nil h
  obtain ⟨hv, hpsum, htsum⟩ :=
    Totals.addAll_eq_ok (fun s hs => Fee.active_of_mem hs) htotals hneg
  -- a total within a finite bound is a number, and so is every value that was added to it
  obtain ⟨p, -, hple, hp⟩ :=
    (notNegative_total hv hpsum).hasValue_of_not_lt hasValue_hundred hhundred
  obtain ⟨t, -, htle, ht⟩ := (notNegative_total hv htsum).hasValue_of_not_lt hfee hflat
  have hvalue : ∀ s ∈ activeOf splits, s.value.isFinite = true ∧ 0 ≤ s.value.value := by
    intro s hs
    obtain ⟨v, hv0, hval⟩ : ∃ v, 0 ≤ v ∧ s.value.HasValue v := by
      cases hkind : s.isPercentage with
      | true => exact hasValue_of_total hv hpsum hp s hs hkind
      | false => exact hasValue_of_total hv htsum ht s hs (by simp [isFlatAmount_eq_not, hkind])
    exact ⟨hval.isFinite, by rwa [hval.value_eq]⟩
  rw [Totals.combinedExceeds, le_eq hp hasValue_hundred, decide_eq_true hple, ok_bind,
    if_pos rfl] at hexceeds
  obtain ⟨c, hc, hlt⟩ := bind_eq_ok_iff.mp hexceeds
  have hcv := Totals.combined_hasValue hfee hp ht hc
  rw [lt_eq hfee hcv] at hlt
  exact ⟨totals.percentage, totals.flat, c, {
    value := hvalue
    percentages := hpsum
    flats := htsum
    percentage_le := hp.atMost hasValue_hundred hple
    flat_le := ht.atMost hfee htle
    combined := hc
    combined_le := hcv.atMost hfee (not_lt.mp (of_decide_eq_false (Except.ok.inj hlt))) }⟩

/-- Nothing is found against splits that the fee bears. -/
theorem Borne.validateTotals (h : Borne fee (activeOf splits) p t c) :
    validateTotals splits fee = .ok [] := by
  have hnonneg : ∀ s ∈ activeOf splits, 0 ≤ s.value.value := fun s hs => (h.value s hs).2
  have hcounted := countedOf_eq hnonneg
  have hp := h.percentages
  have ht := h.flats
  rw [← hcounted] at hp ht
  rw [validateTotals_of_totals h.flat_le.hasValue_right (fun s hs => (h.value s hs).1) hp
    h.percentage_le.hasValue_left ht h.flat_le.hasValue_left
    fun _ _ => ⟨c, h.combined, h.combined_le.hasValue_left⟩]
  have hhundred := h.percentage_le.le
  rw [hasValue_hundred.value_eq] at hhundred
  rw [negativeOf_eq_nil_iff.mpr hnonneg, if_neg hhundred.not_gt, if_neg h.flat_le.le.not_gt,
    if_neg fun hover => h.combined_le.le.not_gt hover.2]
  rfl

/-- If nothing is found against a list, nothing is found against any part of it, nor once any of the
splits that are kept are made inactive. -/
theorem validateTotals_fewer (splits : List Split) (fee : Decimal) (hfee : fee.isFinite = true)
    (h : validateTotals splits fee = .ok []) (kept other : List Split)
    (hkept : kept.Sublist splits)
    (hother : List.Forall₂ (fun s t => t = s ∨ t = s.deactivated) kept other) :
    validateTotals other fee = .ok [] := by
  obtain ⟨p, t, c, hborne⟩ := exists_borne (hasValue_value hfee) h
  have hsub : (activeOf other).Sublist (activeOf splits) :=
    (activeOf_sublist_of_deactivated hother).trans (activeOf_sublist hkept)
  obtain ⟨p', t', c', hborne'⟩ := hborne.sublist hsub
  exact hborne'.validateTotals

/-- Ten to the power of twenty-eight and five flat, beside no percent. -/
def roundedOff : List Split :=
  [⟨"a", .flatAmount, .finite ⟨false, 1, 28⟩, true, none⟩, ⟨"b", .flatAmount, 5, true, none⟩,
    ⟨"c", .percentage, 0, true, none⟩]

/-- A fee of ten to the power of twenty-eight bears five more, since these are rounded off, and so
it bears the five without the first and the last split. -/
theorem roundedOff_without_first :
    validateTotals roundedOff (.finite ⟨false, 1, 28⟩) = .ok [] ∧
      validateTotals [⟨"a", .flatAmount, .finite ⟨false, 1, 28⟩, false, none⟩,
        ⟨"b", .flatAmount, 5, true, none⟩] (.finite ⟨false, 1, 28⟩) = .ok [] := by
  have hall : validateTotals roundedOff (.finite ⟨false, 1, 28⟩) = .ok [] := rfl
  refine ⟨hall, ?_⟩
  refine validateTotals_fewer roundedOff _ rfl hall (roundedOff.take 2) _
    (List.take_sublist 2 roundedOff) ?_
  exact .cons (.inr rfl) (.cons (.inl rfl) .nil)

end Split

end Passbook
